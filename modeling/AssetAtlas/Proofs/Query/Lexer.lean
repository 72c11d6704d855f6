import Mathlib.Tactic.SplitIfs
import AssetAtlas.Query.Token

/-!
Reading the text of a program. The lexer knows nothing of programs, only how names and texts are
quoted. The main statement is `lex_join`: tokens are read back from their text as they were,
whatever names and texts they hold, provided that no two of them can run together.
-/

namespace AssetAtlas.Query

/-- Reads the rest of a quoted name, which ends at the first back quote that is not doubled. -/
def readName : List Char → Option (List Char × List Char)
  | '\x60' :: '\x60' :: rest => (readName rest).map (Prod.map ('\x60' :: ·) id)
  | '\x60' :: rest => some ([], rest)
  | c :: rest => (readName rest).map (Prod.map (c :: ·) id)
  | [] => none

/-- Reads the rest of a quoted text, which ends at the first single quote that is not escaped. Only
quotes and backslashes can be escaped. -/
def readText : List Char → Option (List Char × List Char)
  | '\\' :: c :: rest =>
    if c = '\\' ∨ c = '\x27' then (readText rest).map (Prod.map (c :: ·) id) else none
  | '\\' :: [] => none
  | '\x27' :: rest => some ([], rest)
  | c :: rest => (readText rest).map (Prod.map (c :: ·) id)
  | [] => none

def punctuation : List Char :=
  ['(', ')', '[', ']', '\x7b', '\x7d', ':', '.', ',', '*', '=', '<', '>', '-']

def lexeme : List Char → Option (Token × List Char)
  | [] => none
  | c :: rest =>
    if c = '\x60' then
      (readName rest).map (Prod.map (.quotedName ∘ String.ofList) id)
    else if c = '\x27' then
      (readText rest).map (Prod.map (.text ∘ String.ofList) id)
    else if beginsWord c then
      some (.word (String.ofList (c :: rest.takeWhile continuesWord)),
        rest.dropWhile continuesWord)
    else if c.isDigit then
      some (.number (Nat.ofDigitChars 10 (c :: rest.takeWhile Char.isDigit) 0),
        rest.dropWhile Char.isDigit)
    else if c.isWhitespace then some (.blank, rest)
    else if c ∈ punctuation then some (.mark c, rest)
    else none

theorem exists_of_map_eq_some {α : Type} {read : Option (List Char × List Char)}
    {f : List Char → α} {a : α} {rest : List Char}
    (h : read.map (Prod.map f id) = some (a, rest)) :
    ∃ s, read = some (s, rest) := by
  obtain ⟨⟨s, rest'⟩, hread, heq⟩ := Option.map_eq_some_iff.mp h
  obtain ⟨-, rfl⟩ := Prod.mk.inj heq
  exact ⟨s, hread⟩

theorem length_lt_of_readName {input s rest : List Char} (h : readName input = some (s, rest)) :
    rest.length < input.length := by
  fun_induction readName input generalizing s with
  | case1 tail ih =>
      obtain ⟨s', hread⟩ := exists_of_map_eq_some h
      exact Nat.lt_succ_of_lt (Nat.lt_succ_of_lt (ih hread))
  | case2 tail =>
      obtain ⟨-, rfl⟩ := Prod.mk.inj (Option.some.inj h)
      exact Nat.lt_succ_self _
  | case3 c tail _ _ ih =>
      obtain ⟨s', hread⟩ := exists_of_map_eq_some h
      exact Nat.lt_succ_of_lt (ih hread)
  | case4 => exact nomatch h

theorem length_lt_of_readText {input s rest : List Char} (h : readText input = some (s, rest)) :
    rest.length < input.length := by
  fun_induction readText input generalizing s with
  | case1 c tail _ ih =>
      obtain ⟨s', hread⟩ := exists_of_map_eq_some h
      exact Nat.lt_succ_of_lt (Nat.lt_succ_of_lt (ih hread))
  | case2 => exact nomatch h
  | case3 => exact nomatch h
  | case4 tail =>
      obtain ⟨-, rfl⟩ := Prod.mk.inj (Option.some.inj h)
      exact Nat.lt_succ_self _
  | case5 c tail _ _ _ ih =>
      obtain ⟨s', hread⟩ := exists_of_map_eq_some h
      exact Nat.lt_succ_of_lt (ih hread)
  | case6 => exact nomatch h

theorem length_lt_of_lexeme {input rest : List Char} {t : Token}
    (h : lexeme input = some (t, rest)) : rest.length < input.length := by
  cases input with
  | nil => exact nomatch h
  | cons c tail =>
      have hdrop (p : Char → Bool) : (tail.dropWhile p).length < (c :: tail).length :=
        Nat.lt_succ_of_le (List.dropWhile_sublist p).length_le
      rw [lexeme] at h
      split_ifs at h
      · obtain ⟨s, hread⟩ := exists_of_map_eq_some h
        exact Nat.lt_succ_of_lt (length_lt_of_readName hread)
      · obtain ⟨s, hread⟩ := exists_of_map_eq_some h
        exact Nat.lt_succ_of_lt (length_lt_of_readText hread)
      · obtain ⟨-, rfl⟩ := Prod.mk.inj (Option.some.inj h)
        exact hdrop _
      · obtain ⟨-, rfl⟩ := Prod.mk.inj (Option.some.inj h)
        exact hdrop _
      · obtain ⟨-, rfl⟩ := Prod.mk.inj (Option.some.inj h)
        exact Nat.lt_succ_self _
      · obtain ⟨-, rfl⟩ := Prod.mk.inj (Option.some.inj h)
        exact Nat.lt_succ_self _

def lexChars (input : List Char) : Option (List Token) :=
  match input with
  | [] => some []
  | c :: cs =>
    match _h : lexeme (c :: cs) with
    | none => none
    | some (t, rest) => (lexChars rest).map (t :: ·)
termination_by input.length
decreasing_by exact length_lt_of_lexeme _h

def lex (s : String) : Option (List Token) :=
  lexChars s.toList

theorem readName_nameChar (s : List Char) {rest : List Char} (h : rest.head? ≠ some '\x60') :
    readName (s.flatMap Token.nameChar ++ '\x60' :: rest) = some (s, rest) := by
  induction s with
  | nil =>
      cases rest with
      | nil => rfl
      | cons d rest =>
          have hd : d ≠ '\x60' := fun hd => h (congrArg some hd)
          simp [readName, hd]
  | cons c s ih =>
      by_cases hc : c = '\x60'
      · subst hc
        simp [Token.nameChar, readName, ih]
      · simp [Token.nameChar, readName, hc, ih]

theorem readText_textChar (s rest : List Char) :
    readText (s.flatMap Token.textChar ++ '\x27' :: rest) = some (s, rest) := by
  induction s with
  | nil => rfl
  | cons c s ih =>
      by_cases hbackslash : c = '\\'
      · subst hbackslash
        simp [Token.textChar, readText, ih]
      · by_cases hquote : c = '\x27'
        · subst hquote
          simp [Token.textChar, readText, ih]
        · simp [Token.textChar, readText, hbackslash, hquote, ih]

/-- Whether a character would go on a word, a number or a quoted name. -/
def continuesSolid (c : Char) : Bool :=
  continuesWord c || c == '\x60'

namespace Token

def isValid : Token → Bool
  | .word s => isWord s
  | .mark c => decide (c ∈ punctuation)
  | .quotedName _ | .text _ | .number _ | .blank => true

/-- Whether a token could run together with the next one. -/
def isSolid : Token → Bool
  | .word _ | .quotedName _ | .number _ => true
  | .text _ | .mark _ | .blank => false

end Token

theorem takeWhile_append_eq {p : Char → Bool} {l rest : List Char} (hl : ∀ c ∈ l, p c = true)
    (hrest : ∀ c ∈ rest.head?, p c = false) : (l ++ rest).takeWhile p = l := by
  rw [List.takeWhile_append_of_pos hl]
  cases rest with
  | nil => simp
  | cons c rest => simp [hrest c rfl]

theorem dropWhile_append_eq {p : Char → Bool} {l rest : List Char} (hl : ∀ c ∈ l, p c = true)
    (hrest : ∀ c ∈ rest.head?, p c = false) : (l ++ rest).dropWhile p = rest := by
  rw [List.dropWhile_append_of_pos hl]
  cases rest with
  | nil => rfl
  | cons c rest => simp [hrest c rfl]

theorem continuesWord_of_isDigit {c : Char} (h : c.isDigit = true) : continuesWord c = true := by
  simp [continuesWord, Char.isAlphanum, h]

theorem continuesWord_of_beginsWord {c : Char} (h : beginsWord c = true) :
    continuesWord c = true := by
  rcases (Bool.or_eq_true _ _).mp h with halpha | hunderscore
  · simp [continuesWord, Char.isAlphanum, halpha]
  · simp [continuesWord, hunderscore]

theorem ne_quote_of_continuesWord {c : Char} (h : continuesWord c = true) :
    c ≠ '\x60' ∧ c ≠ '\x27' := by
  constructor
  · rintro rfl
    exact absurd h (by decide)
  · rintro rfl
    exact absurd h (by decide)

theorem not_beginsWord_of_isDigit {c : Char} (h : c.isDigit = true) : beginsWord c = false := by
  have hnine : c.val ≤ '9'.val := of_decide_eq_true ((Bool.and_eq_true _ _).mp h).2
  apply Bool.eq_false_iff.mpr
  intro hbegin
  -- every character that begins a word comes after the digits
  have habove : '9'.val < c.val := by
    rcases (Bool.or_eq_true _ _).mp hbegin with halpha | hunderscore
    · rcases (Bool.or_eq_true _ _).mp halpha with hupper | hlower
      · have hfirst : 'A'.val ≤ c.val := (of_decide_eq_true hupper).1
        exact UInt32.lt_of_lt_of_le (by decide) hfirst
      · have hfirst : 'a'.val ≤ c.val := of_decide_eq_true ((Bool.and_eq_true _ _).mp hlower).1
        exact UInt32.lt_of_lt_of_le (by decide) hfirst
    · rw [eq_of_beq hunderscore]
      decide
  exact UInt32.not_le.mpr habove hnine

theorem lexeme_word {s : String} (hs : isWord s = true) {rest : List Char}
    (hrest : ∀ c ∈ rest.head?, continuesSolid c = false) :
    lexeme (s.toList ++ rest) = some (.word s, rest) := by
  have hcontinue : ∀ c ∈ rest.head?, continuesWord c = false := fun c hc =>
    (Bool.or_eq_false_iff.mp (hrest c hc)).1
  unfold isWord at hs
  split at hs
  · exact absurd hs Bool.false_ne_true
  · next c tail heq =>
      obtain ⟨hbegin, htail⟩ := (Bool.and_eq_true _ _).mp hs
      have htail : ∀ c ∈ tail, continuesWord c = true := List.all_eq_true.mp htail
      obtain ⟨hname, htext⟩ := ne_quote_of_continuesWord (continuesWord_of_beginsWord hbegin)
      rw [heq, List.cons_append, lexeme, if_neg hname, if_neg htext, if_pos hbegin,
        takeWhile_append_eq htail hcontinue, dropWhile_append_eq htail hcontinue, ← heq,
        String.ofList_toList]

theorem lexeme_number (n : Nat) {rest : List Char}
    (hrest : ∀ c ∈ rest.head?, continuesSolid c = false) :
    lexeme (Nat.toDigits 10 n ++ rest) = some (.number n, rest) := by
  have hcontinue : ∀ c ∈ rest.head?, c.isDigit = false := by
    intro c hc
    cases hdigit : c.isDigit with
    | false => rfl
    | true =>
        have hsolid := hrest c hc
        rw [continuesSolid, continuesWord_of_isDigit hdigit] at hsolid
        exact hsolid
  have hdigits : ∀ c ∈ Nat.toDigits 10 n, c.isDigit = true := fun c hc =>
    Nat.isDigit_of_mem_toDigits (by decide) (by decide) hc
  cases heq : Nat.toDigits 10 n with
  | nil => exact absurd heq Nat.toDigits_ne_nil
  | cons c tail =>
      rw [heq] at hdigits
      obtain ⟨hdigit, htail⟩ := List.forall_mem_cons.mp hdigits
      obtain ⟨hname, htext⟩ := ne_quote_of_continuesWord (continuesWord_of_isDigit hdigit)
      have hbegin : ¬ beginsWord c = true := by
        rw [not_beginsWord_of_isDigit hdigit]
        exact Bool.false_ne_true
      rw [List.cons_append, lexeme, if_neg hname, if_neg htext, if_neg hbegin, if_pos hdigit,
        takeWhile_append_eq htail hcontinue, dropWhile_append_eq htail hcontinue, ← heq,
        Nat.ofDigitChars_ten_toDigits]

theorem not_other_of_mem_punctuation : ∀ c ∈ punctuation,
    c ≠ '\x60' ∧ c ≠ '\x27' ∧ ¬ beginsWord c = true ∧ ¬ c.isDigit = true ∧
      ¬ c.isWhitespace = true ∧ continuesSolid c = false := by
  have hall : punctuation.all (fun c => decide (c ≠ '\x60' ∧ c ≠ '\x27' ∧ ¬ beginsWord c = true ∧
      ¬ c.isDigit = true ∧ ¬ c.isWhitespace = true ∧ continuesSolid c = false)) = true := by
    decide
  exact fun c hc => of_decide_eq_true (List.all_eq_true.mp hall c hc)

theorem lexeme_mark {c : Char} (hc : c ∈ punctuation) (rest : List Char) :
    lexeme (c :: rest) = some (.mark c, rest) := by
  obtain ⟨hname, htext, hword, hdigit, hblank, -⟩ := not_other_of_mem_punctuation c hc
  rw [lexeme, if_neg hname, if_neg htext, if_neg hword, if_neg hdigit, if_neg hblank, if_pos hc]

theorem lexeme_written {t : Token} (ht : t.isValid = true) {rest : List Char}
    (hrest : t.isSolid = true → ∀ c ∈ rest.head?, continuesSolid c = false) :
    lexeme (t.written ++ rest) = some (t, rest) := by
  cases t with
  | word s => exact lexeme_word ht (hrest rfl)
  | quotedName s =>
      have hend : rest.head? ≠ some '\x60' := fun hend =>
        absurd (hrest rfl _ hend) (by decide)
      simp [Token.written, lexeme, readName_nameChar _ hend]
  | text s => simp [Token.written, lexeme, readText_textChar]
  | number n => exact lexeme_number n (hrest rfl)
  | mark c => exact lexeme_mark (of_decide_eq_true ht) rest
  | blank => rfl

theorem lexChars_of_lexeme {input rest : List Char} {t : Token}
    (h : lexeme input = some (t, rest)) : lexChars input = (lexChars rest).map (t :: ·) := by
  cases input with
  | nil => exact nomatch h
  | cons c cs =>
      rw [lexChars]
      split
      · next hnone => exact nomatch hnone.symm.trans h
      · next heq =>
          obtain ⟨rfl, rfl⟩ := Prod.mk.inj (Option.some.inj (heq.symm.trans h))
          rfl

/-- Whether tokens can be read one after the other: each of them can, and no two solid ones stand
side by side. `afterSolid` says whether a solid token stands in front. -/
def legible (afterSolid : Bool) : List Token → Bool
  | [] => true
  | t :: ts => t.isValid && !(afterSolid && t.isSolid) && legible t.isSolid ts

theorem head?_written_append {t : Token} (ht : t.isValid = true) (hsolid : t.isSolid = false)
    (rest : List Char) : ∀ c ∈ (t.written ++ rest).head?, continuesSolid c = false := by
  cases t with
  | word s => exact nomatch hsolid
  | quotedName s => exact nomatch hsolid
  | number n => exact nomatch hsolid
  | text s => rintro c ⟨⟩; rfl
  | mark c =>
      rintro c ⟨⟩
      exact (not_other_of_mem_punctuation c (of_decide_eq_true ht)).2.2.2.2.2
  | blank => rintro c ⟨⟩; rfl

theorem head?_flatMap_written {ts : List Token} (h : legible true ts = true) :
    ∀ c ∈ (ts.flatMap Token.written).head?, continuesSolid c = false := by
  cases ts with
  | nil => rintro c ⟨⟩
  | cons t ts =>
      simp only [legible, Bool.true_and, Bool.and_eq_true, Bool.not_eq_true'] at h
      exact head?_written_append h.1.1 h.1.2 _

theorem lexChars_written {ts : List Token} {afterSolid : Bool}
    (h : legible afterSolid ts = true) : lexChars (ts.flatMap Token.written) = some ts := by
  induction ts generalizing afterSolid with
  | nil => rw [List.flatMap_nil, lexChars]
  | cons t ts ih =>
      simp only [legible, Bool.and_eq_true] at h
      obtain ⟨⟨hvalid, -⟩, hts⟩ := h
      have hrest : t.isSolid = true →
          ∀ c ∈ (ts.flatMap Token.written).head?, continuesSolid c = false :=
        fun hsolid => head?_flatMap_written (hsolid ▸ hts)
      rw [List.flatMap_cons, lexChars_of_lexeme (lexeme_written hvalid hrest), ih hts]
      rfl

theorem lex_join {ts : List Token} (h : legible false ts = true) :
    lex (Token.join ts) = some ts := by
  rw [lex, Token.join, String.toList_ofList]
  exact lexChars_written h

end AssetAtlas.Query
