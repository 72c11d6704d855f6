import AssetAtlas.Proofs.Query.Lexer
import AssetAtlas.Proofs.Query.Writing

/-!
The tokens of a program are read back from its text, and they hold what the tree holds: the names
that stand behind colons are its labels and relationship types, and the quoted texts are the texts
that it compares with. The main statement is `Program.readsBack`.

Fragments are put together where at least one of them has a token at the seam that cannot run on,
such as a bracket or a blank. So a fragment is judged as if such tokens stood around it.
-/

namespace AssetAtlas.Query

namespace Token

/-- The name that a token carries, quoted or not. -/
def name? : Token → Option String
  | .word s | .quotedName s => some s
  | .text _ | .number _ | .mark _ | .blank => none

/-- The text that a token carries. -/
def text? : Token → Option String
  | .text s => some s
  | .word _ | .quotedName _ | .number _ | .mark _ | .blank => none

/-- Whether a token keeps its neighbours apart and carries nothing. -/
def isJoint : Token → Bool
  | .mark c => decide (c ∈ punctuation) && c != ':'
  | .blank => true
  | .word _ | .quotedName _ | .text _ | .number _ => false

theorem isValid_ofName (s : String) : (ofName s).isValid = true := by
  unfold ofName
  split
  · next h => exact h
  · rfl

theorem isSolid_ofName (s : String) : (ofName s).isSolid = true := by
  unfold ofName
  split <;> rfl

theorem name?_ofName (s : String) : (ofName s).name? = some s := by
  unfold ofName
  split <;> rfl

theorem text?_ofName (s : String) : (ofName s).text? = none := by
  unfold ofName
  split <;> rfl

theorem ofName_ne_mark (s : String) (c : Char) : ofName s ≠ .mark c := by
  unfold ofName
  split <;> exact Token.noConfusion

end Token

open Token

/-- The names that stand right behind colons. `colon` says whether a colon stands in front. -/
def namesBehindColons (colon : Bool) : List Token → List String
  | [] => []
  | t :: ts =>
    (if colon then t.name?.toList else []) ++ namesBehindColons (decide (t = .mark ':')) ts

/-- Whether tokens may follow a solid token as well as any other. -/
def StandsApart (rest : List Token) : Prop :=
  legible true rest = legible false rest

theorem standsApart_nil : StandsApart [] := rfl

theorem standsApart_cons {t : Token} (h : t.isSolid = false) (rest : List Token) :
    StandsApart (t :: rest) := by
  simp [StandsApart, legible, h]

/-- Tokens that can be read where no solid token stands in front or behind, with the names behind
colons and the texts that they carry. -/
structure Reads (ts : List Token) (names texts : List String) : Prop where
  legible_append : ∀ rest, StandsApart rest → legible false (ts ++ rest) = legible false rest
  names_append : ∀ rest,
    namesBehindColons false (ts ++ rest) = names ++ namesBehindColons false rest
  texts_eq : ts.filterMap text? = texts

namespace Reads

variable {a b : List Token} {namesA namesB textsA textsB : List String}

theorem nil : Reads [] [] [] where
  legible_append := fun _ _ => rfl
  names_append := fun _ => rfl
  texts_eq := rfl

theorem single {t : Token} (hvalid : t.isValid = true) (hcolon : t ≠ .mark ':')
    (htext : t.text? = none) : Reads [t] [] [] where
  legible_append := by
    intro rest hrest
    unfold StandsApart at hrest
    cases hsolid : t.isSolid <;> simp [legible, hvalid, hsolid, hrest]
  names_append := by
    intro rest
    simp [namesBehindColons, hcolon]
  texts_eq := by simp [htext]

theorem word {w : String} (h : isWord w = true) : Reads [.word w] [] [] :=
  single h Token.noConfusion rfl

theorem ofName (s : String) : Reads [.ofName s] [] [] :=
  single (isValid_ofName s) (ofName_ne_mark s ':') (text?_ofName s)

theorem number (n : Nat) : Reads [.number n] [] [] :=
  single rfl Token.noConfusion rfl

theorem text (s : String) : Reads [.text s] [] [s] where
  legible_append := fun _ _ => rfl
  names_append := fun _ => rfl
  texts_eq := rfl

theorem append (ha : Reads a namesA textsA) (hb : Reads b namesB textsB)
    (hapart : ∀ rest, StandsApart rest → StandsApart (b ++ rest)) :
    Reads (a ++ b) (namesA ++ namesB) (textsA ++ textsB) where
  legible_append := by
    intro rest hrest
    rw [List.append_assoc, ha.legible_append _ (hapart rest hrest), hb.legible_append _ hrest]
  names_append := by
    intro rest
    rw [List.append_assoc, ha.names_append, hb.names_append, List.append_assoc]
  texts_eq := by rw [List.filterMap_append, ha.texts_eq, hb.texts_eq]

theorem cons {t : Token} (ht : t.isJoint = true) (h : Reads a namesA textsA) :
    Reads (t :: a) namesA textsA := by
  obtain ⟨hvalid, hsolid, hcolon, htext⟩ :
      t.isValid = true ∧ t.isSolid = false ∧ t ≠ .mark ':' ∧ t.text? = none := by
    cases t <;> simp_all [isJoint, isValid, isSolid, text?]
  refine ⟨?_, ?_, ?_⟩
  · intro rest hrest
    simp [legible, hvalid, hsolid, h.legible_append rest hrest]
  · intro rest
    simp [namesBehindColons, hcolon, h.names_append rest]
  · simp [htext, h.texts_eq]

/-- A joint between two parts keeps them apart, whatever they end and begin with. -/
theorem join {t : Token} (ha : Reads a namesA textsA) (ht : t.isJoint = true)
    (hb : Reads b namesB textsB) :
    Reads (a ++ t :: b) (namesA ++ namesB) (textsA ++ textsB) := by
  have hsolid : t.isSolid = false := by
    cases t <;> simp_all [isJoint, isSolid]
  exact ha.append (hb.cons ht) fun rest _ => standsApart_cons hsolid (b ++ rest)

theorem spaced (ha : Reads a namesA textsA) (hb : Reads b namesB textsB) :
    Reads (a ++ .blank :: b) (namesA ++ namesB) (textsA ++ textsB) :=
  ha.join (by decide) hb

theorem afterBlank (h : Reads a namesA textsA) : Reads (.blank :: a) namesA textsA :=
  h.cons (by decide)

theorem keyword (w : String) (hw : isWord w = true) (h : Reads a namesA textsA) :
    Reads (.word w :: .blank :: a) namesA textsA :=
  (Reads.word hw).spaced h

theorem label (ha : Reads a namesA textsA) (label : Option String) :
    Reads (a ++ labelTokens label) (namesA ++ label.toList) textsA := by
  cases label with
  | none => simpa [labelTokens] using ha
  | some s =>
      have hvalid : isValid (.mark ':') = true := by decide
      have hsolid : isSolid (.mark ':') = false := rfl
      have hlabel : Reads (labelTokens (some s)) [s] [] := by
        refine ⟨?_, ?_, ?_⟩
        · intro rest hrest
          unfold StandsApart at hrest
          simp [labelTokens, legible, hvalid, hsolid, isValid_ofName, isSolid_ofName, hrest]
        · intro rest
          simp [labelTokens, namesBehindColons, ofName_ne_mark, name?_ofName]
        · have htext : text? (.mark ':') = none := rfl
          simp [labelTokens, text?_ofName, htext]
      simpa using ha.append hlabel fun rest _ => standsApart_cons rfl _

end Reads

theorem Literal.reads (v : Literal) : Reads v.tokens [] v.text?.toList := by
  cases v with
  | text s => exact .text s
  | bool b => cases b <;> exact .word (by decide)

theorem NodePattern.reads {n : NodePattern} (h : isWord n.var = true) :
    Reads n.tokens n.label.toList [] := by
  have hopened : Reads [.mark '(', .word n.var] [] [] := (Reads.word h).cons (by decide)
  have hclosed := (hopened.label n.label).join (t := .mark ')') (by decide) .nil
  simpa [NodePattern.tokens] using hclosed

theorem NodePattern.standsApart (n : NodePattern) (rest : List Token) :
    StandsApart (n.tokens ++ rest) :=
  standsApart_cons rfl _

theorem LinkPattern.reads {l : LinkPattern} (h : ∀ v ∈ l.var, isWord v = true) :
    Reads l.tokens l.kind.toList [] := by
  have hvar : Reads (variableTokens l.var) [] [] := by
    cases hv : l.var with
    | none => exact .nil
    | some v => exact .word (h v hv)
  have hopened := ((hvar.cons (t := .mark '[') (by decide)).cons (t := .mark '-')
    (by decide)).label l.kind
  have hend : Reads [.mark '-', .mark '>'] [] [] :=
    (Reads.nil.cons (by decide)).cons (by decide)
  unfold LinkPattern.tokens
  cases l.hops with
  | none =>
      have hclosed := hopened.join (t := .mark ']') (by decide) hend
      simpa [hopsTokens] using hclosed
  | some hops =>
      have hmost : Reads [.mark '.', .number hops.2] [] [] := (Reads.number _).cons (by decide)
      have hrange := (Reads.number hops.1).join (t := .mark '.') (by decide) hmost
      have hclosed := (hopened.join (t := .mark '*') (by decide) hrange).join (t := .mark ']')
        (by decide) hend
      simpa [hopsTokens] using hclosed

theorem LinkPattern.standsApart (l : LinkPattern) (rest : List Token) :
    StandsApart (l.tokens ++ rest) :=
  standsApart_cons rfl _

theorem Pattern.reads {p : Pattern} (h : ∀ v ∈ p.vars, isWord v = true) :
    Reads p.tokens p.names [] := by
  have hlink {source target : NodePattern} {l : LinkPattern}
      (h : ∀ v ∈ source.var :: l.var.toList ++ [target.var], isWord v = true) :
      Reads (source.tokens ++ l.tokens ++ target.tokens)
        (source.label.toList ++ l.kind.toList ++ target.label.toList) [] :=
    ((NodePattern.reads (h _ (by simp))).append
      (LinkPattern.reads fun v hv => h v (by simp [Option.mem_def.mp hv]))
      fun rest _ => l.standsApart rest).append
      (NodePattern.reads (h _ (by simp))) fun rest _ => target.standsApart rest
  cases p with
  | node n => exact NodePattern.reads (h _ (by simp [Pattern.vars]))
  | link source l target => exact hlink h
  | path var source l target =>
      obtain ⟨hvar, hrest⟩ := List.forall_mem_cons.mp h
      have hequals := (hlink hrest).afterBlank.cons (t := .mark '=') (by decide)
      have hpath := (Reads.word hvar).spaced hequals
      simpa [Pattern.tokens, Pattern.names] using hpath

theorem Match.reads {m : Match} (h : ∀ v ∈ m.pattern.vars, isWord v = true) :
    Reads m.tokens m.pattern.names [] := by
  have hmatch := (Pattern.reads h).keyword "MATCH" (by decide)
  cases hoptional : m.isOptional with
  | false => simpa [Match.tokens, hoptional] using hmatch
  | true =>
      have hboth := hmatch.keyword "OPTIONAL" (by decide)
      simpa [Match.tokens, hoptional] using hboth

theorem reads_propertyTokens {var : String} (h : isWord var = true) (property : String) :
    Reads (propertyTokens var property) [] [] :=
  (Reads.word h).join (t := .mark '.') (by decide) (.ofName property)

namespace Predicate

theorem reads_memberTokens {p : Predicate} {names texts : List String}
    (h : Reads p.tokens names texts) : Reads p.memberTokens names texts := by
  rw [memberTokens_eq]
  cases p.isCompound with
  | false => exact h
  | true =>
      have hopened := h.cons (t := .mark '(') (by decide)
      simpa using hopened.join (t := .mark ')') (by decide) .nil

theorem reads_joined {word : String} (hword : isWord word = true) {members : List Predicate}
    (h : ∀ p ∈ members, Reads p.tokens p.names p.texts) :
    Reads (joined word members) (members.flatMap names) (members.flatMap texts) := by
  induction members with
  | nil => simpa [joined] using Reads.nil
  | cons p rest ih =>
      obtain ⟨hp, hrest⟩ := List.forall_mem_cons.mp h
      cases rest with
      | nil => simpa [joined] using reads_memberTokens hp
      | cons q rest =>
          have hall := (reads_memberTokens hp).spaced ((ih hrest).keyword word hword)
          simpa [joined] using hall

theorem isWord_of_mem {members : List Predicate}
    (h : ∀ v ∈ members.flatMap vars, isWord v = true) {p : Predicate} (hp : p ∈ members) :
    ∀ v ∈ p.vars, isWord v = true :=
  fun v hv => h v (List.mem_flatMap.mpr ⟨p, hp, hv⟩)

theorem reads {p : Predicate} (h : ∀ v ∈ p.vars, isWord v = true) :
    Reads p.tokens p.names p.texts := by
  induction p using Predicate.induct with
  | hasLabel var label =>
      have hall := (Reads.word (h var (by simp))).label (some label)
      rw [names, texts, collect_leaf _ rfl, collect_leaf _ rfl, tokens]
      exact hall
  | equal var property value =>
      have hequals := value.reads.afterBlank.cons (t := .mark '=') (by decide)
      have hall := (reads_propertyTokens (h var (by simp)) property).spaced hequals
      rw [names, texts, collect_leaf _ rfl, collect_leaf _ rfl, tokens]
      exact hall
  | unequal var property value =>
      have hunequal := (value.reads.afterBlank.cons (t := .mark '>')
        (by decide)).cons (t := .mark '<') (by decide)
      have hall := (reads_propertyTokens (h var (by simp)) property).spaced hunequal
      rw [names, texts, collect_leaf _ rfl, collect_leaf _ rfl, tokens]
      exact hall
  | isPresent var property =>
      have hnull : Reads [.word "NULL"] [] [] := .word (by decide)
      have hwords := (hnull.keyword "NOT" (by decide)).keyword "IS" (by decide)
      have hall := (reads_propertyTokens (h var (by simp)) property).spaced hwords
      rw [names, texts, collect_leaf _ rfl, collect_leaf _ rfl, tokens]
      exact hall
  | and members ih =>
      rw [vars_and] at h
      rw [names, texts, collect_and, collect_and, tokens]
      exact reads_joined (by decide) fun p hp => ih p hp (isWord_of_mem h hp)
  | or members ih =>
      rw [vars_or] at h
      rw [names, texts, collect_or, collect_or, tokens]
      exact reads_joined (by decide) fun p hp => ih p hp (isWord_of_mem h hp)

end Predicate

theorem Term.reads {t : Term} (h : ∀ v ∈ t.vars, isWord v = true) : Reads t.tokens [] [] := by
  have hcall {function argument : String} (hfunction : isWord function = true)
      (hargument : isWord argument = true) :
      Reads [.word function, .mark '(', .word argument, .mark ')'] [] [] :=
    (Reads.word hfunction).join (t := .mark '(') (by decide)
      ((Reads.word hargument).join (t := .mark ')') (by decide) .nil)
  cases t with
  | var name => exact .word (h name (by simp [Term.vars]))
  | null => exact .word (by decide)
  | startOf link => exact hcall (by decide) (h link (by simp [Term.vars]))
  | endOf link => exact hcall (by decide) (h link (by simp [Term.vars]))

theorem reads_columnTokens {t : Term} (h : ∀ v ∈ t.vars, isWord v = true) {name : String}
    (hname : isWord name = true) : Reads (columnTokens t name) [] [] := by
  unfold columnTokens
  split
  · exact .word hname
  · exact (Term.reads h).spaced ((Reads.word hname).keyword "AS" (by decide))

theorem Columns.reads {c : Columns} (h : ∀ v ∈ c.vars, isWord v = true) :
    Reads c.tokens [] [] := by
  cases c with
  | triple n r m =>
      simp only [Columns.vars, List.forall_mem_append] at h
      obtain ⟨⟨hn, hr⟩, hm⟩ := h
      have hn : Reads (columnTokens n "n") [] [] := reads_columnTokens hn (by decide)
      have hr : Reads (columnTokens r "r") [] [] := reads_columnTokens hr (by decide)
      have hm : Reads (columnTokens m "m") [] [] := reads_columnTokens hm (by decide)
      have hlast := hr.join (t := .mark ',') (by decide) hm.afterBlank
      have hall := hn.join (t := .mark ',') (by decide) hlast.afterBlank
      simpa [Columns.tokens] using hall.keyword "RETURN" (by decide)
  | count t =>
      have hname : Reads [.word "count"] [] [] := .word (by decide)
      have halias := (hname.keyword "AS" (by decide)).afterBlank
      have hterm := (Term.reads h).join (t := .mark ')') (by decide) halias
      have hcount := hname.join (t := .mark '(') (by decide) hterm
      simpa [Columns.tokens] using hcount.keyword "RETURN" (by decide)

theorem Unwinding.reads {u : Unwinding} (hpath : isWord u.path = true)
    (hvar : isWord u.var = true) : Reads u.tokens [] [] := by
  have halias := ((Reads.word hvar).keyword "AS" (by decide)).afterBlank
  have hargument := (Reads.word hpath).join (t := .mark ')') (by decide) halias
  have hfunction : Reads [.word "relationships"] [] [] := .word (by decide)
  have hcall := hfunction.join (t := .mark '(') (by decide) hargument
  simpa [Unwinding.tokens] using hcall.keyword "UNWIND" (by decide)

theorem reads_patterns {ms : List Match}
    (h : ∀ v ∈ ms.flatMap (·.pattern.vars), isWord v = true) {rest : List Token}
    {names texts : List String} (hrest : Reads rest names texts) :
    Reads ((ms.flatMap fun m => m.tokens ++ [.blank]) ++ rest)
      (ms.flatMap (·.pattern.names) ++ names) texts := by
  induction ms with
  | nil => exact hrest
  | cons m ms ih =>
      rw [List.flatMap_cons] at h
      obtain ⟨hm, hms⟩ := List.forall_mem_append.mp h
      simpa using (Match.reads hm).spaced (ih hms)

theorem reads_conditionTokens {c : Option Predicate}
    (h : ∀ v ∈ c.toList.flatMap Predicate.vars, isWord v = true) {rest : List Token}
    {names texts : List String} (hrest : Reads rest names texts) :
    Reads (conditionTokens c ++ rest) (c.toList.flatMap Predicate.names ++ names)
      (c.toList.flatMap Predicate.texts ++ texts) := by
  cases c with
  | none => exact hrest
  | some p =>
      have hp : Reads p.tokens p.names p.texts :=
        Predicate.reads fun v hv => h v (by simpa using hv)
      simpa [conditionTokens] using (hp.spaced hrest).keyword "WHERE" (by decide)

theorem reads_unwindingTokens {u : Option Unwinding}
    (h : ∀ v ∈ u.toList.flatMap (fun u => [u.path, u.var]), isWord v = true) {rest : List Token}
    {names texts : List String} (hrest : Reads rest names texts) :
    Reads (unwindingTokens u ++ rest) names texts := by
  cases u with
  | none => exact hrest
  | some u =>
      have hu : Reads u.tokens [] [] := Unwinding.reads (h _ (by simp)) (h _ (by simp))
      simpa [unwindingTokens] using hu.spaced hrest

theorem Branch.reads {b : Branch} (h : ∀ v ∈ b.vars, isWord v = true) :
    Reads b.tokens b.names b.texts := by
  simp only [Branch.vars, List.forall_mem_append] at h
  obtain ⟨⟨⟨hpatterns, hcondition⟩, hunwinding⟩, hcolumns⟩ := h
  have hall := reads_patterns hpatterns <| reads_conditionTokens hcondition <|
    reads_unwindingTokens hunwinding (Columns.reads hcolumns)
  simpa [Branch.tokens, Branch.names, Branch.texts] using hall

theorem Reads.union {a b : List Token} {namesA namesB textsA textsB : List String}
    (ha : Reads a namesA textsA) (hb : Reads b namesB textsB) (u : Union) :
    Reads (a ++ u.tokens ++ b) (namesA ++ namesB) (textsA ++ textsB) := by
  cases u with
  | distinct =>
      simpa [Union.tokens] using ha.spaced (hb.keyword "UNION" (by decide))
  | all =>
      have hunion := (hb.keyword "ALL" (by decide)).keyword "UNION" (by decide)
      simpa [Union.tokens] using ha.spaced hunion

namespace Program

theorem reads_branchTokens (u : Union) {bs : List Branch}
    (h : ∀ b ∈ bs, ∀ v ∈ b.vars, isWord v = true) :
    Reads (branchTokens u bs) (bs.flatMap Branch.names) (bs.flatMap Branch.texts) := by
  induction bs with
  | nil => exact .nil
  | cons b rest ih =>
      obtain ⟨hb, hrest⟩ := List.forall_mem_cons.mp h
      cases rest with
      | nil => simpa [branchTokens] using Branch.reads hb
      | cons c rest => exact (Branch.reads hb).union (ih hrest) u

theorem reads {p : Program} (h : p.HasWordVariables) : Reads p.tokens p.names p.texts := by
  have hunion : Reads (branchTokens p.union p.branches) p.names p.texts :=
    reads_branchTokens p.union h
  have hlimit {body : List Token} (hbody : Reads body p.names p.texts) (limit : Nat) :
      Reads (body ++ [.blank, .word "LIMIT", .blank, .number limit]) p.names p.texts := by
    simpa using hbody.spaced ((Reads.number limit).keyword "LIMIT" (by decide))
  have hcall : Reads ([.word "CALL", .blank, .mark '\x7b', .blank] ++
      branchTokens p.union p.branches ++ [.blank, .mark '\x7d', .blank] ++ Columns.plain.tokens)
      p.names p.texts := by
    have hplain : Reads Columns.plain.tokens [] [] := Columns.reads (by decide)
    have hclosed := hunion.spaced (hplain.afterBlank.cons (t := .mark '\x7d') (by decide))
    have hopened := hclosed.afterBlank.cons (t := .mark '\x7b') (by decide)
    simpa using hopened.keyword "CALL" (by decide)
  rw [tokens]
  cases p.limit with
  | none => exact hunion
  | some limit =>
      apply hlimit
      split
      · exact hcall
      · exact hunion

/-- The text of a program is read as the tokens of its tree: the names behind colons are the labels
and types of the tree, and the quoted texts are its texts. -/
structure ReadsBack (p : Program) : Prop where
  lex_eq : lex p.text = some p.tokens
  names_eq : namesBehindColons false p.tokens = p.names
  texts_eq : p.tokens.filterMap Token.text? = p.texts

theorem readsBack {p : Program} (h : p.HasWordVariables) : p.ReadsBack := by
  have hreads := reads h
  have hlegible := hreads.legible_append [] standsApart_nil
  have hnames := hreads.names_append []
  rw [List.append_nil] at hlegible hnames
  rw [namesBehindColons, List.append_nil] at hnames
  refine ⟨?_, hnames, hreads.texts_eq⟩
  rw [p.text_eq]
  exact lex_join hlegible

end Program

end AssetAtlas.Query
