import AssetAtlas.Proofs.Query.Contents
import AssetAtlas.Query.Text

/-!
The text of a program is its tokens, written one after the other. The text is put together clause by
clause and the tokens are read off the tree, each without the other; the main statement is
`Program.text_eq`.
-/

namespace AssetAtlas.Query

namespace Token

theorem join_nil : join [] = "" :=
  rfl

theorem join_append (a b : List Token) : join (a ++ b) = join a ++ join b := by
  rw [join, List.flatMap_append, String.ofList_append]
  rfl

theorem join_cons_cons (t u : Token) (ts : List Token) :
    join (t :: u :: ts) = join [t] ++ join (u :: ts) :=
  join_append [t] (u :: ts)

theorem join_flatMap {α : Type} (f : α → List Token) (l : List α) :
    join (l.flatMap f) = String.join (l.map fun a => join (f a)) := by
  induction l with
  | nil => rfl
  | cons a l ih => rw [List.flatMap_cons, join_append, ih, List.map_cons, String.join_cons]

@[simp]
theorem join_word (s : String) : join [.word s] = s := by
  simp [join, written]

@[simp]
theorem join_mark (c : Char) : join [.mark c] = String.singleton c :=
  rfl

@[simp]
theorem join_blank : join [.blank] = " " :=
  rfl

@[simp]
theorem join_number (n : Nat) : join [.number n] = toString n := by
  simp [join, written]
  rfl

end Token

open Token

theorem nameText_eq (s : String) : nameText s = join [ofName s] := by
  rw [nameText, ofName]
  split
  · rw [join_word]
  · have hname : Text.replaceChar '\x60' ['\x60', '\x60'] s =
        String.ofList (s.toList.flatMap nameChar) := rfl
    rw [hname, ← String.toList_inj]
    simp [join, written]

theorem labelText_eq (label : Option String) : labelText label = join (labelTokens label) := by
  cases label with
  | none => rfl
  | some label =>
      rw [labelText, labelTokens, join_cons_cons, join_mark, nameText_eq]
      rfl

/-- To escape the backslashes of a text and then its quotes is to escape each character by itself. -/
theorem replaceChar_replaceChar (s : String) :
    Text.replaceChar '\x27' ['\\', '\x27'] (Text.replaceChar '\\' ['\\', '\\'] s) =
      String.ofList (s.toList.flatMap textChar) := by
  rw [Text.replaceChar, Text.replaceChar, String.toList_ofList, List.flatMap_assoc]
  refine congrArg (fun f => String.ofList (s.toList.flatMap f)) (funext fun c => ?_)
  rw [textChar]
  split
  · simp
  · simp

theorem Literal.written_eq (v : Literal) : v.written = join v.tokens := by
  cases v with
  | text s =>
      rw [written, tokens, replaceChar_replaceChar, ← String.toList_inj]
      simp [join, Token.written]
  | bool b =>
      rw [written, tokens, join_word]
      cases b <;> rfl

theorem NodePattern.text_eq (n : NodePattern) : n.text = join n.tokens := by
  rw [text, tokens, join_append, join_append, join_cons_cons, join_word, join_mark, join_mark,
    labelText_eq]
  rfl

theorem hopsText_eq (hops : Option (Nat × Nat)) : hopsText hops = join (hopsTokens hops) := by
  cases hops with
  | none => rfl
  | some hops =>
      obtain ⟨least, most⟩ := hops
      simp only [hopsText, hopsTokens, join_cons_cons, join_mark, join_number]
      rw [← String.toList_inj]
      simp

theorem LinkPattern.text_eq (l : LinkPattern) : l.text = join l.tokens := by
  have hvar : l.var.getD "" = join (variableTokens l.var) := by
    cases l.var with
    | none => rfl
    | some var => exact (join_word var).symm
  simp only [text, tokens, join_append, labelText_eq, hopsText_eq, hvar]
  rfl

theorem Pattern.text_eq (p : Pattern) : p.text = join p.tokens := by
  cases p with
  | node n => exact n.text_eq
  | link source l target =>
      rw [text, tokens, join_append, join_append, source.text_eq, l.text_eq, target.text_eq]
  | path var source l target =>
      have hequals : var ++ " = " = join [.word var, .blank, .mark '=', .blank] := by
        rw [join_cons_cons, join_word]
        rfl
      rw [text, tokens, join_append, join_append, join_append, source.text_eq, l.text_eq,
        target.text_eq, hequals]

theorem Match.text_eq (m : Match) : m.text = join m.tokens := by
  rw [text, tokens, join_append, join_append, m.pattern.text_eq]
  cases m.isOptional <;> rfl

theorem propertyText_eq (var property : String) :
    var ++ "." ++ nameText property = join (propertyTokens var property) := by
  rw [propertyTokens, join_cons_cons, join_cons_cons, join_word, join_mark, nameText_eq,
    String.append_assoc]
  rfl

namespace Predicate

theorem memberTokens_eq (p : Predicate) :
    p.memberTokens = if p.isCompound then .mark '(' :: p.tokens ++ [.mark ')'] else p.tokens := by
  cases p <;> simp [memberTokens, isCompound, tokens]

theorem memberText_eq (p : Predicate) :
    p.memberText = if p.isCompound then "(" ++ p.text ++ ")" else p.text := by
  cases p <;> simp [memberText, isCompound, text]

theorem joined_cons_cons (word : String) (p q : Predicate) (rest : List Predicate) :
    joined word (p :: q :: rest) =
      p.memberTokens ++ [.blank, .word word, .blank] ++ joined word (q :: rest) := by
  rw [joined]
  exact List.cons_ne_nil q rest

theorem joinedText_cons_cons (separator : String) (p q : Predicate) (rest : List Predicate) :
    joinedText separator (p :: q :: rest) =
      p.memberText ++ separator ++ joinedText separator (q :: rest) := by
  rw [joinedText]
  exact List.cons_ne_nil q rest

theorem memberText_eq_join {p : Predicate} (h : p.text = join p.tokens) :
    p.memberText = join p.memberTokens := by
  rw [memberText_eq, memberTokens_eq]
  split
  · have hopening : join (.mark '(' :: p.tokens) = "(" ++ join p.tokens := join_append [_] _
    rw [join_append, hopening, h]
    rfl
  · exact h

theorem joinedText_eq {separator word : String}
    (hseparator : separator = join [.blank, .word word, .blank]) {members : List Predicate}
    (h : ∀ p ∈ members, p.text = join p.tokens) :
    joinedText separator members = join (joined word members) := by
  induction members with
  | nil => simp [joinedText, joined, join_nil]
  | cons p rest ih =>
      obtain ⟨hp, hrest⟩ := List.forall_mem_cons.mp h
      cases rest with
      | nil => simpa only [joinedText, joined] using memberText_eq_join hp
      | cons q rest =>
          rw [joinedText_cons_cons, joined_cons_cons, join_append, join_append,
            memberText_eq_join hp, ih hrest, hseparator]

theorem text_eq (p : Predicate) : p.text = join p.tokens := by
  induction p using Predicate.induct with
  | hasLabel var label =>
      rw [text, tokens, join_cons_cons, join_cons_cons, join_word, join_mark, nameText_eq,
        String.append_assoc]
      rfl
  | equal var property value =>
      rw [text, tokens, join_append, join_append, ← propertyText_eq, value.written_eq]
      rfl
  | unequal var property value =>
      rw [text, tokens, join_append, join_append, ← propertyText_eq, value.written_eq]
      rfl
  | isPresent var property =>
      rw [text, tokens, join_append, ← propertyText_eq]
      rfl
  | and members ih =>
      have hseparator : " AND " = join [.blank, .word "AND", .blank] := by decide
      rw [text, tokens, joinedText_eq hseparator ih]
  | or members ih =>
      have hseparator : " OR " = join [.blank, .word "OR", .blank] := by decide
      rw [text, tokens, joinedText_eq hseparator ih]

end Predicate

theorem Term.text_eq (t : Term) : t.text = join t.tokens := by
  cases t with
  | var name => exact (join_word name).symm
  | null => rfl
  | startOf link | endOf link =>
      simp only [text, tokens, join_cons_cons, join_word, join_mark, ← String.append_assoc]
      rfl

theorem columnText_eq (t : Term) (name : String) : columnText t name = join (columnTokens t name) := by
  rw [columnText, columnTokens]
  split
  · rw [join_word]
  · have has : " AS " ++ name = join [.blank, .word "AS", .blank, .word name] := by
      simp only [join_cons_cons, join_word, join_blank, ← String.append_assoc]
      rfl
    rw [join_append, t.text_eq, String.append_assoc, has]

theorem Columns.text_eq (c : Columns) : c.text = join c.tokens := by
  have hreturn : "RETURN " = join [.word "RETURN", .blank] := by decide
  have hcomma : ", " = join [.mark ',', .blank] := by decide
  have hcount : "RETURN count(" =
      join [.word "RETURN", .blank, .word "count", .mark '('] := by decide
  have has : ") AS count" =
      join [.mark ')', .blank, .word "AS", .blank, .word "count"] := by decide
  unfold text
  cases c with
  | triple n r m =>
      dsimp only
      rw [hreturn, hcomma, columnText_eq, columnText_eq, columnText_eq, tokens]
      simp only [join_append]
  | count t =>
      dsimp only
      rw [hcount, has, t.text_eq, tokens]
      simp only [join_append]

theorem Unwinding.text_eq (u : Unwinding) : u.text = join u.tokens := by
  have hunwind : "UNWIND relationships(" =
      join [.word "UNWIND", .blank, .word "relationships", .mark '('] := by decide +kernel
  have has : ") AS " = join [.mark ')', .blank, .word "AS", .blank] := by decide
  have htokens : u.tokens = [.word "UNWIND", .blank, .word "relationships", .mark '('] ++
      [.word u.path] ++ [.mark ')', .blank, .word "AS", .blank] ++ [.word u.var] := rfl
  unfold text
  rw [hunwind, has, htokens, join_append, join_append, join_append, join_word, join_word]

theorem conditionText_eq (condition : Option Predicate) :
    conditionText condition = join (conditionTokens condition) := by
  cases condition with
  | none => rfl
  | some p =>
      rw [conditionText, conditionTokens, join_append, join_append, p.text_eq]
      rfl

theorem unwindingText_eq (unwinding : Option Unwinding) :
    unwindingText unwinding = join (unwindingTokens unwinding) := by
  cases unwinding with
  | none => rfl
  | some u =>
      rw [unwindingText, unwindingTokens, join_append, u.text_eq]
      rfl

theorem Branch.text_eq (b : Branch) : b.text = join b.tokens := by
  have hpatterns : (b.patterns.map fun m => m.text ++ " ") =
      b.patterns.map fun m => join (m.tokens ++ [.blank]) := by
    simp only [Match.text_eq, join_append, join_blank]
  rw [text, tokens, join_append, join_append, join_append, join_flatMap, hpatterns,
    conditionText_eq, unwindingText_eq, b.columns.text_eq]

namespace Program

theorem branchTexts_eq (u : Union) (branches : List Branch) :
    String.intercalate u.text (branches.map Branch.text) = join (branchTokens u branches) := by
  have hunion : u.text = join u.tokens := by cases u <;> rfl
  induction branches with
  | nil => rfl
  | cons b rest ih =>
      cases rest with
      | nil => simpa [branchTokens] using b.text_eq
      | cons c rest =>
          rw [List.map_cons, List.map_cons, String.intercalate_cons_cons, ← List.map_cons, ih,
            b.text_eq, hunion, ← join_append, ← join_append]
          rfl

/-- The text of a program says the tokens of its tree, and nothing else. -/
theorem text_eq (p : Program) : p.text = join p.tokens := by
  unfold text tokens
  rw [branchTexts_eq]
  cases p.limit with
  | none => rfl
  | some limit =>
      have hlimit : " LIMIT " ++ toString limit =
          join [.blank, .word "LIMIT", .blank, .number limit] := by
        simp only [join_cons_cons, join_word, join_blank, join_number, ← String.append_assoc]
        rfl
      dsimp only
      rw [join_append, String.append_assoc, hlimit]
      split
      · have hcall : "CALL \x7b " =
            join [.word "CALL", .blank, .mark '\x7b', .blank] := by decide
        have hreturn : " \x7d RETURN n, r, m" =
            join ([.blank, .mark '\x7d', .blank] ++ Columns.plain.tokens) := by decide +kernel
        rw [hcall, hreturn, ← join_append, ← join_append, List.append_assoc _ [_, _, _]]
      · rfl

end Program

end AssetAtlas.Query
