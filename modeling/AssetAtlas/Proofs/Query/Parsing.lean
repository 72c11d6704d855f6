import Mathlib.Data.Option.NAry
import AssetAtlas.Proofs.Query.FilterMeaning
import AssetAtlas.Proofs.Query.Precedence

/-!
Reading the text of a condition. The text is cut into tokens, blanks are dropped, and what is left
is read as atoms, joining words and parentheses; which of them belong together is decided by
precedence alone. Joining words and parentheses inside a quoted name or text are part of its token,
so they join nothing.
-/

namespace AssetAtlas.Query

def Token.literal? : Token → Option Literal
  | .text s => some (.text s)
  | .word s =>
    if s = "true" then some (.bool true) else if s = "false" then some (.bool false) else none
  | .quotedName _ | .number _ | .mark _ | .blank => none

def spaceless (ts : List Token) : List Token :=
  ts.filter (· ≠ .blank)

/-- An atom in front of other symbols. -/
def atomThen (p : Option Predicate) (rest : Option (List Symbol)) : Option (List Symbol) :=
  Option.map₂ (fun p xs => .atom p :: xs) p rest

/-- Reads the atoms among the tokens of a condition. A word joins others if no atom begins there. -/
def symbols? : List Token → Option (List Symbol)
  | [] => some []
  | .mark '(' :: rest => (symbols? rest).map (.opening :: ·)
  | .mark ')' :: rest => (symbols? rest).map (.closing :: ·)
  | .word var :: .mark ':' :: label :: rest =>
    atomThen (label.name?.map (.hasLabel var)) (symbols? rest)
  | .word var :: .mark '.' :: property :: .mark '=' :: value :: rest =>
    atomThen (Option.map₂ (.equal var) property.name? value.literal?) (symbols? rest)
  | .word var :: .mark '.' :: property :: .mark '<' :: .mark '>' :: value :: rest =>
    atomThen (Option.map₂ (.unequal var) property.name? value.literal?) (symbols? rest)
  | .word var :: .mark '.' :: property :: .word "IS" :: .word "NOT" :: .word "NULL" :: rest =>
    atomThen (property.name?.map (.isPresent var)) (symbols? rest)
  | .word "AND" :: rest => (symbols? rest).map (.and :: ·)
  | .word "OR" :: rest => (symbols? rest).map (.or :: ·)
  | _ => none

def parse? (s : String) : Option Predicate :=
  ((lex s).bind fun ts => symbols? (spaceless ts)).bind read?

/-- A text is read as a condition if its symbols stand for it by the grammar. -/
theorem parse?_eq_some_iff {s : String} {q : Predicate} :
    parse? s = some q ↔
      ∃ xs, (∃ ts, lex s = some ts ∧ symbols? (spaceless ts) = some xs) ∧
        Stands .disjunction xs q := by
  simp only [parse?, Option.bind_eq_some_iff, read?_eq_some_iff]

/-! ## From tokens to symbols -/

/-- Tokens are read as symbols, whatever stands behind them. -/
def ReadInto (ts : List Token) (xs : List Symbol) : Prop :=
  ∀ rest, symbols? (spaceless ts ++ rest) = (symbols? rest).map (xs ++ ·)

theorem spaceless_append (a b : List Token) : spaceless (a ++ b) = spaceless a ++ spaceless b :=
  List.filter_append a b

theorem Token.ofName_ne_blank (s : String) : ofName s ≠ .blank := by
  unfold ofName
  split <;> exact Token.noConfusion

theorem atomThen_some (p : Predicate) (rest : Option (List Symbol)) :
    atomThen (some p) rest = rest.map (.atom p :: ·) := by
  cases rest <;> rfl

theorem Literal.exists_token (v : Literal) :
    ∃ t, v.tokens = [t] ∧ t ≠ .blank ∧ t.literal? = some v := by
  cases v with
  | text s => exact ⟨.text s, rfl, Token.noConfusion, rfl⟩
  | bool b => cases b <;> exact ⟨_, rfl, Token.noConfusion, by decide⟩

namespace Predicate

open Token

theorem readInto_leaf {p : Predicate} (h : p.isCompound = false) :
    ReadInto p.tokens p.symbols := by
  intro rest
  rw [symbols_leaf h]
  cases p with
  | hasLabel var label =>
      simp [tokens, spaceless, ofName_ne_blank, symbols?, name?_ofName, atomThen_some]
  | equal var property value =>
      obtain ⟨t, htokens, hblank, hvalue⟩ := value.exists_token
      simp [tokens, propertyTokens, htokens, spaceless, ofName_ne_blank, hblank, symbols?,
        name?_ofName, hvalue, atomThen_some]
  | unequal var property value =>
      obtain ⟨t, htokens, hblank, hvalue⟩ := value.exists_token
      simp [tokens, propertyTokens, htokens, spaceless, ofName_ne_blank, hblank, symbols?,
        name?_ofName, hvalue, atomThen_some]
  | isPresent var property =>
      simp [tokens, propertyTokens, spaceless, ofName_ne_blank, symbols?, name?_ofName,
        atomThen_some]
  | and members | or members => exact absurd h Bool.noConfusion

theorem readInto_member {p : Predicate} (h : ReadInto p.tokens p.symbols) :
    ReadInto p.memberTokens p.memberSymbols := by
  intro rest
  rw [memberTokens_eq, memberSymbols_eq]
  cases p.isCompound with
  | false => exact h rest
  | true =>
      have hopening : spaceless (.mark '(' :: p.tokens ++ [.mark ')']) ++ rest =
          .mark '(' :: (spaceless p.tokens ++ .mark ')' :: rest) := by
        simp [spaceless]
      rw [if_pos rfl, if_pos rfl, hopening, symbols?, h, symbols?]
      simp [Option.map_map, Function.comp_def]

/-- Tokens begin as a member of a joint does, with a variable or a parenthesis. -/
def BeginsMember (ts : List Token) : Prop :=
  ∃ t rest, ts = t :: rest ∧ (t = .mark '(' ∨ ∃ var, t = .word var)

theorem BeginsMember.append {a : List Token} (h : BeginsMember a) (b : List Token) :
    BeginsMember (a ++ b) := by
  obtain ⟨t, rest, rfl, ht⟩ := h
  exact ⟨t, rest ++ b, rfl, ht⟩

theorem beginsMember_memberTokens (p : Predicate) : BeginsMember (spaceless p.memberTokens) := by
  rw [memberTokens_eq]
  cases p with
  | hasLabel var label | equal var property value | unequal var property value
  | isPresent var property =>
      simp [BeginsMember, isCompound, tokens, propertyTokens, spaceless]
  | and members | or members =>
      simp [BeginsMember, isCompound, spaceless]

theorem beginsMember_joined (word : String) (p : Predicate) (rest : List Predicate) :
    BeginsMember (spaceless (joined word (p :: rest))) := by
  have hp := beginsMember_memberTokens p
  cases rest with
  | nil => simpa only [joined] using hp
  | cons q rest =>
      rw [joined_cons_cons, List.append_assoc, spaceless_append]
      exact hp.append _

-- a joining word in front of a variable or a parenthesis is not itself the variable of an atom
theorem symbols?_and {ts : List Token} (h : BeginsMember ts) :
    symbols? (.word "AND" :: ts) = (symbols? ts).map (.and :: ·) := by
  obtain ⟨t, rest, rfl, rfl | ⟨var, rfl⟩⟩ := h
  · rfl
  · rw [symbols?] <;> simp

theorem symbols?_or {ts : List Token} (h : BeginsMember ts) :
    symbols? (.word "OR" :: ts) = (symbols? ts).map (.or :: ·) := by
  obtain ⟨t, rest, rfl, rfl | ⟨var, rfl⟩⟩ := h
  · rfl
  · rw [symbols?] <;> simp

theorem readInto_joined {word : String} {joint : Symbol}
    (hword : ∀ {ts}, BeginsMember ts →
      symbols? (.word word :: ts) = (symbols? ts).map (joint :: ·))
    {members : List Predicate} (h : ∀ p ∈ members, ReadInto p.tokens p.symbols) :
    ReadInto (joined word members) (joinedSymbols joint members) := by
  induction members with
  | nil =>
      intro rest
      simp [joined, joinedSymbols, spaceless]
  | cons p rest ih =>
      obtain ⟨hp, hrest⟩ := List.forall_mem_cons.mp h
      cases rest with
      | nil => simpa only [joined, joinedSymbols] using readInto_member hp
      | cons q rest =>
          intro tail
          have hbegins := (beginsMember_joined word q rest).append tail
          have hsplit : spaceless (joined word (p :: q :: rest)) ++ tail =
              spaceless p.memberTokens ++
                .word word :: (spaceless (joined word (q :: rest)) ++ tail) := by
            rw [joined_cons_cons, spaceless_append, spaceless_append]
            simp [spaceless]
          rw [hsplit, readInto_member hp, hword hbegins, ih hrest, joinedSymbols_cons_cons]
          simp [Option.map_map, Function.comp_def]

theorem readInto_tokens (p : Predicate) : ReadInto p.tokens p.symbols := by
  induction p using Predicate.induct with
  | hasLabel var label | equal var property value | unequal var property value
  | isPresent var property => exact readInto_leaf rfl
  | and members ih =>
      rw [tokens, symbols]
      exact readInto_joined symbols?_and ih
  | or members ih =>
      rw [tokens, symbols]
      exact readInto_joined symbols?_or ih

/-! ## From text to conditions -/

theorem lex_text {p : Predicate} (h : ∀ v ∈ p.vars, isWord v = true) :
    lex p.text = some p.tokens := by
  have hlegible := (reads h).legible_append [] standsApart_nil
  rw [List.append_nil] at hlegible
  rw [p.text_eq]
  exact lex_join hlegible

theorem parse?_text {p : Predicate} (hfull : p.Full) (hvars : ∀ v ∈ p.vars, isWord v = true) :
    parse? p.text = some p.collapse := by
  have hsymbols : symbols? (spaceless p.tokens) = some p.symbols := by
    have hall := p.readInto_tokens []
    rw [List.append_nil] at hall
    rw [hall]
    simp [symbols?]
  rw [parse?, lex_text hvars, Option.bind_some, hsymbols, Option.bind_some, read?_symbols hfull]

/-- A condition without empty joints is read back from its text with the same atoms in the same
order, and it is true whenever the condition itself is, whatever its names and texts are. -/
theorem text_keeps_meaning (p : Predicate) (hfull : p.Full)
    (hvars : ∀ v ∈ p.vars, isWord v = true) :
    ∃ q, parse? p.text = some q ∧ q.atoms = p.atoms ∧
      ∀ v : Predicate → Bool, q.truth v = p.truth v :=
  ⟨p.collapse, parse?_text hfull hvars, atoms_collapse p, fun v => truth_collapse v p⟩

/-- Joining words and parentheses inside names and texts, and joints of a single member. -/
def hostile : Predicate :=
  .and [
    .or [.hasLabel "n" "a) OR (b", .equal "n" "x\x60y AND" (.text "\\' OR 'z' = '")],
    .or [.isPresent "n" "IS"],
    .and [.unequal "m" "" (.bool true), .or [.hasLabel "m" "AND", .hasLabel "m" "'"]]]

theorem text_keeps_meaning_hostile :
    hostile.Full ∧ (∀ v ∈ hostile.vars, isWord v = true) ∧
      ∃ q, parse? hostile.text = some q ∧ q.atoms = hostile.atoms ∧
        ∀ v : Predicate → Bool, q.truth v = hostile.truth v := by
  have hfull : hostile.Full := by simp [hostile]
  have hvars : ∀ v ∈ hostile.vars, isWord v = true := by decide
  exact ⟨hfull, hvars, text_keeps_meaning hostile hfull hvars⟩

theorem full_of_mem_all {members : List Predicate} (h : ∀ p ∈ members, p.Full) :
    ∀ p ∈ all members, p.Full := by
  match members, h with
  | [], _ => exact nofun
  | [p], h => rintro _ ⟨⟩; exact h p List.mem_cons_self
  | p :: q :: rest, h => rintro _ ⟨⟩; exact .and (List.cons_ne_nil _ _) h

theorem full_of_mem_any {members : List Predicate} (h : ∀ p ∈ members, p.Full) :
    ∀ p ∈ any members, p.Full := by
  match members, h with
  | [], _ => exact nofun
  | [p], h => rintro _ ⟨⟩; exact h p List.mem_cons_self
  | p :: q :: rest, h => rintro _ ⟨⟩; exact .or (List.cons_ne_nil _ _) h

end Predicate

/-! ## Compiled conditions -/

namespace PropertyGraph

variable (g : PropertyGraph) (σ : Assignment)

theorem truth_holds (p : Predicate) : p.truth (g.holds σ) = g.holds σ p := by
  induction p using Predicate.induct with
  | hasLabel var label | equal var property value | unequal var property value
  | isPresent var property => rfl
  | and members ih =>
      rw [Predicate.truth_and, Bool.eq_iff_iff, List.all_eq_true, holds, g.allHold_iff]
      exact forall₂_congr fun p hp => by rw [ih p hp]
  | or members ih =>
      rw [Predicate.truth_or, Bool.eq_iff_iff, List.any_eq_true, holds, g.someHolds_iff]
      exact exists_congr fun p => and_congr_right fun hp => by rw [ih p hp]

theorem holds_collapse (p : Predicate) : g.holds σ p.collapse = g.holds σ p := by
  rw [← g.truth_holds, Predicate.truth_collapse, g.truth_holds]

end PropertyGraph

theorem full_sidePredicate (a : Attribute) (value var : String) (b : Bearing) :
    (sidePredicate a value var b).Full := by
  cases b with
  | concrete kind => exact .leaf rfl
  | ambiguous =>
      cases a <;> simp [sidePredicate, VulnerabilityKind.all, VulnerabilityKind.property]

theorem full_filterPredicate (f : Filters) (sides : List Side) :
    ∀ p ∈ filterPredicate f sides, p.Full := by
  refine Predicate.full_of_mem_all fun p hp => ?_
  obtain ⟨⟨a, value⟩, -, hp⟩ := List.mem_filterMap.mp hp
  refine Predicate.full_of_mem_any (List.forall_mem_map.mpr fun side _ => ?_) p hp
  exact full_sidePredicate a value side.1 side.2

theorem full_builders (purpose : Purpose) :
    HoldsOfBuilders purpose fun b => ∀ p ∈ b.condition, p.Full where
  ofDefault := by cases purpose <;> exact nofun
  ofNode := fun source f => full_filterPredicate f [⟨"n", source⟩]
  ofLink := fun source _ target f _ _ => full_filterPredicate f [⟨"n", source⟩, ⟨"m", target⟩]
  ofPath := fun source target f => full_filterPredicate f [⟨"src", source⟩, ⟨"dst", target⟩]
  ofInternet := by
    rintro - p ⟨⟩
    simp [Exposure.anyPredicate, Exposure.all, Exposure.predicate]

/-- Every condition of a compiled program is read back from its text as one that holds for the same
assignments on every store. -/
theorem condition_keeps_meaning (purpose : Purpose) (criteria : List Criterion) (limit : Nat)
    (showInternet : Bool) : ∀ b ∈ (program purpose criteria limit showInternet).branches,
      ∀ p ∈ b.condition, ∃ q, parse? p.text = some q ∧
        ∀ (g : PropertyGraph) (σ : Assignment), g.holds σ q = g.holds σ p := by
  intro b hb p hp
  have hfull := (full_builders purpose).program criteria limit showInternet b hb p hp
  have hvars : ∀ v ∈ p.vars, isWord v = true := by
    intro v hv
    have hb := hasWordVariables_program purpose criteria limit showInternet b hb
    refine hb v ?_
    simp only [Branch.vars, List.mem_append]
    exact .inl (.inl (.inr (List.mem_flatMap.mpr ⟨p, Option.mem_toList.mpr hp, hv⟩)))
  exact ⟨p.collapse, Predicate.parse?_text hfull hvars, fun g σ => g.holds_collapse σ p⟩

end AssetAtlas.Query
