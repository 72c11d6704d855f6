import AssetAtlas.Proofs.Query.Evaluation

/-!
Reading conditions that are joined by `AND` and `OR`. `AND` binds tighter, and parentheses override.
The reader keeps, for every parenthesis that is open, the conjunctions that are finished and the
members of the one that is not; `OR` finishes one, and a closing parenthesis makes all of it a
member of what stands around it.

The reader reads what the usual grammar allows, and nothing else (`read?_eq_some_iff`). A condition
that is written with parentheses around the members that join others is read back without the joints
that have a single member (`Predicate.read?_symbols`), which have no part in its truth.
-/

namespace AssetAtlas.Query

/-- What a condition is made of, when it is written down. -/
inductive Symbol where
  | atom (p : Predicate)
  | and
  | or
  | opening
  | closing

/-- Conditions joined by one word; a single one stands for itself. -/
def joinMany (join : List Predicate → Predicate) : List Predicate → Predicate
  | [p] => p
  | ps => join ps

/-- What was read since a parenthesis was opened. -/
structure Frame where
  /-- The conjunctions that are finished. -/
  disjuncts : List Predicate := []
  /-- The members of the conjunction that is not. -/
  conjuncts : List Predicate := []

namespace Frame

def member (f : Frame) (p : Predicate) : Frame :=
  { f with conjuncts := f.conjuncts ++ [p] }

def finished (f : Frame) : Frame :=
  { disjuncts := f.disjuncts ++ [joinMany .and f.conjuncts] }

def value (f : Frame) : Predicate :=
  joinMany .or f.finished.disjuncts

end Frame

/-- A reader between two symbols. -/
structure Reading where
  frame : Frame := {}
  /-- The frames around it, the innermost first. -/
  outer : List Frame := []
  /-- Whether a condition has to come next, or a word that joins it to another. -/
  isOpen : Bool := true

namespace Reading

def step (s : Reading) (x : Symbol) : Option Reading :=
  match x, s.isOpen, s.outer with
  | .atom p, true, outer => some ⟨s.frame.member p, outer, false⟩
  | .opening, true, outer => some ⟨{}, s.frame :: outer, true⟩
  | .and, false, outer => some ⟨s.frame, outer, true⟩
  | .or, false, outer => some ⟨s.frame.finished, outer, true⟩
  | .closing, false, f :: outer => some ⟨f.member s.frame.value, outer, false⟩
  | _, _, _ => none

def value? (s : Reading) : Option Predicate :=
  match s.isOpen, s.outer with
  | false, [] => some s.frame.value
  | _, _ => none

end Reading

def read? (xs : List Symbol) : Option Predicate :=
  (xs.foldlM Reading.step {}).bind Reading.value?

/-! ## The grammar -/

/-- How tight a part of a condition is bound. -/
inductive Level where
  | operand
  | conjunction
  | disjunction

/-- The symbols of a part of a condition, and what they stand for. An operand is an atom, or a
disjunction in parentheses; a conjunction has `AND` between operands, and a disjunction has `OR`
between conjunctions. -/
inductive Stands : Level → List Symbol → Predicate → Prop where
  | atom (p : Predicate) : Stands .operand [.atom p] p
  | parentheses {xs : List Symbol} {p : Predicate} (h : Stands .disjunction xs p) :
    Stands .operand (.opening :: xs ++ [.closing]) p
  | conjunction {members : List (List Symbol × Predicate)} (hne : members ≠ [])
    (h : ∀ m ∈ members, Stands .operand m.1 m.2) :
    Stands .conjunction ([.and].intercalate (members.map Prod.fst))
      (joinMany .and (members.map Prod.snd))
  | disjunction {members : List (List Symbol × Predicate)} (hne : members ≠ [])
    (h : ∀ m ∈ members, Stands .conjunction m.1 m.2) :
    Stands .disjunction ([.or].intercalate (members.map Prod.fst))
      (joinMany .or (members.map Prod.snd))

theorem Stands.conjunction_of_operand {xs : List Symbol} {p : Predicate}
    (h : Stands .operand xs p) : Stands .conjunction xs p := by
  have hsingle := Stands.conjunction (List.cons_ne_nil (xs, p) []) (List.forall_mem_singleton.mpr h)
  simpa [joinMany] using hsingle

theorem Stands.disjunction_of_conjunction {xs : List Symbol} {p : Predicate}
    (h : Stands .conjunction xs p) : Stands .disjunction xs p := by
  have hsingle := Stands.disjunction (List.cons_ne_nil (xs, p) []) (List.forall_mem_singleton.mpr h)
  simpa [joinMany] using hsingle

/-- What the reader does with the symbols of a part: an operand is added to the conjunction that is
not finished, a conjunction is one more disjunct, and a disjunction is the value of a frame. -/
def ReadAs : Level → List Symbol → Predicate → Prop
  | .operand, xs, p => ∀ (f : Frame) (outer : List Frame),
    xs.foldlM Reading.step ⟨f, outer, true⟩ = some ⟨f.member p, outer, false⟩
  | .conjunction, xs, p => ∀ (disjuncts : List Predicate) (outer : List Frame), ∃ f : Frame,
    xs.foldlM Reading.step ⟨⟨disjuncts, []⟩, outer, true⟩ = some ⟨f, outer, false⟩ ∧
      f.finished.disjuncts = disjuncts ++ [p]
  | .disjunction, xs, p => ∀ outer : List Frame, ∃ f : Frame,
    xs.foldlM Reading.step ⟨{}, outer, true⟩ = some ⟨f, outer, false⟩ ∧ f.value = p

theorem readAs_parentheses {xs : List Symbol} {p : Predicate} (h : ReadAs .disjunction xs p) :
    ReadAs .operand (.opening :: xs ++ [.closing]) p := by
  intro f outer
  obtain ⟨inner, hinner, rfl⟩ := h (f :: outer)
  rw [List.cons_append, List.foldlM_cons]
  change (xs ++ [Symbol.closing]).foldlM Reading.step ⟨{}, f :: outer, true⟩ = _
  rw [List.foldlM_append, hinner]
  rfl

theorem intercalate_map_cons_cons {α β : Type} (sep : List β) (f : α → List β) (a b : α)
    (rest : List α) : sep.intercalate ((a :: b :: rest).map f) =
      f a ++ sep ++ sep.intercalate ((b :: rest).map f) := by
  simp [List.intercalate]

theorem foldlM_operands {members : List (List Symbol × Predicate)} (hne : members ≠ [])
    (h : ∀ m ∈ members, ReadAs .operand m.1 m.2) (f : Frame) (outer : List Frame) :
    ([.and].intercalate (members.map Prod.fst)).foldlM Reading.step ⟨f, outer, true⟩ =
      some ⟨{ f with conjuncts := f.conjuncts ++ members.map Prod.snd }, outer, false⟩ := by
  induction members generalizing f with
  | nil => exact absurd rfl hne
  | cons m rest ih =>
      obtain ⟨hm, hrest⟩ := List.forall_mem_cons.mp h
      cases rest with
      | nil => simpa [Frame.member] using hm f outer
      | cons next rest =>
          have hconjuncts : f.conjuncts ++ (m :: next :: rest).map Prod.snd =
              (f.member m.2).conjuncts ++ (next :: rest).map Prod.snd := by
            simp [Frame.member]
          rw [intercalate_map_cons_cons, List.append_assoc, List.foldlM_append, hm f outer,
            hconjuncts]
          exact ih (List.cons_ne_nil next rest) hrest (f.member m.2)

theorem readAs_conjunction {members : List (List Symbol × Predicate)} (hne : members ≠ [])
    (h : ∀ m ∈ members, ReadAs .operand m.1 m.2) :
    ReadAs .conjunction ([.and].intercalate (members.map Prod.fst))
      (joinMany .and (members.map Prod.snd)) :=
  fun disjuncts outer => ⟨_, foldlM_operands hne h ⟨disjuncts, []⟩ outer, rfl⟩

theorem foldlM_conjunctions {members : List (List Symbol × Predicate)} (hne : members ≠ [])
    (h : ∀ m ∈ members, ReadAs .conjunction m.1 m.2) (disjuncts : List Predicate)
    (outer : List Frame) :
    ∃ f : Frame, ([.or].intercalate (members.map Prod.fst)).foldlM Reading.step
        ⟨⟨disjuncts, []⟩, outer, true⟩ = some ⟨f, outer, false⟩ ∧
      f.finished.disjuncts = disjuncts ++ members.map Prod.snd := by
  induction members generalizing disjuncts with
  | nil => exact absurd rfl hne
  | cons m rest ih =>
      obtain ⟨hm, hrest⟩ := List.forall_mem_cons.mp h
      obtain ⟨f, hf, hdisjuncts⟩ := hm disjuncts outer
      cases rest with
      | nil => exact ⟨f, by simpa using hf, hdisjuncts⟩
      | cons next rest =>
          -- the word between them finishes the first conjunction
          obtain ⟨f', hf', hdisjuncts'⟩ :=
            ih (List.cons_ne_nil next rest) hrest (disjuncts ++ [m.2])
          refine ⟨f', ?_, by simpa using hdisjuncts'⟩
          have hfinished : f.finished = ⟨disjuncts ++ [m.2], []⟩ := by
            rw [← hdisjuncts]
            rfl
          rw [intercalate_map_cons_cons, List.append_assoc, List.foldlM_append, hf]
          rw [← hfinished] at hf'
          exact hf'

theorem readAs_disjunction {members : List (List Symbol × Predicate)} (hne : members ≠ [])
    (h : ∀ m ∈ members, ReadAs .conjunction m.1 m.2) :
    ReadAs .disjunction ([.or].intercalate (members.map Prod.fst))
      (joinMany .or (members.map Prod.snd)) := by
  intro outer
  obtain ⟨f, hf, hdisjuncts⟩ := foldlM_conjunctions hne h [] outer
  refine ⟨f, hf, ?_⟩
  rw [Frame.value, hdisjuncts, List.nil_append]

theorem Stands.readAs {level : Level} {xs : List Symbol} {p : Predicate}
    (h : Stands level xs p) : ReadAs level xs p := by
  induction h with
  | atom p => exact fun f outer => rfl
  | parentheses _ ih => exact readAs_parentheses ih
  | conjunction hne _ ih => exact readAs_conjunction hne ih
  | disjunction hne _ ih => exact readAs_disjunction hne ih

theorem Stands.read?_eq {xs : List Symbol} {p : Predicate} (h : Stands .disjunction xs p) :
    read? xs = some p := by
  obtain ⟨f, hf, rfl⟩ := h.readAs []
  rw [read?, hf]
  rfl

theorem Stands.unique {xs : List Symbol} {p q : Predicate} (hp : Stands .disjunction xs p)
    (hq : Stands .disjunction xs q) : p = q :=
  Option.some.inj (hp.read?_eq.symm.trans hq.read?_eq)

/-! ## What the reader has read -/

theorem intercalate_map_concat {α β : Type} (sep : List β) (f : α → List β) (init : List α)
    (last : α) : sep.intercalate ((init ++ [last]).map f) =
      (init.flatMap fun a => f a ++ sep) ++ f last := by
  induction init with
  | nil => simp
  | cons a rest ih =>
      obtain ⟨b, rest', hrest⟩ := List.exists_cons_of_ne_nil (List.concat_ne_nil last rest)
      rw [List.cons_append, List.flatMap_cons, List.append_assoc, ← ih, hrest,
        intercalate_map_cons_cons]

/-- A conjunction of operands, with its symbols. -/
def conjunctionOf (cs : List (List Symbol × Predicate)) : List Symbol × Predicate :=
  ([.and].intercalate (cs.map Prod.fst), joinMany .and (cs.map Prod.snd))

/-- The symbols that were read into a frame: its disjuncts, each with `OR` behind it, and its
operands, with `AND` between them or, where one more has to come, behind each of them. -/
def Frame.Holds (f : Frame) (isOpen : Bool) (xs : List Symbol) : Prop :=
  ∃ ds cs : List (List Symbol × Predicate),
    f = ⟨ds.map Prod.snd, cs.map Prod.snd⟩ ∧
      (∀ d ∈ ds, Stands .conjunction d.1 d.2) ∧ (∀ c ∈ cs, Stands .operand c.1 c.2) ∧
      (isOpen = false → cs ≠ []) ∧
      xs = (ds.flatMap fun d => d.1 ++ [.or]) ++
        if isOpen then cs.flatMap fun c => c.1 ++ [.and] else [.and].intercalate (cs.map Prod.fst)

namespace Frame.Holds

variable {f : Frame} {xs ys : List Symbol} {p : Predicate}

theorem start : Holds {} true [] :=
  ⟨[], [], rfl, List.forall_mem_nil _, List.forall_mem_nil _, nofun, rfl⟩

theorem member (h : f.Holds true xs) (hp : Stands .operand ys p) :
    (f.member p).Holds false (xs ++ ys) := by
  obtain ⟨ds, cs, rfl, hds, hcs, -, rfl⟩ := h
  refine ⟨ds, cs ++ [(ys, p)], by simp [Frame.member], hds, ?_, by simp, ?_⟩
  · exact List.forall_mem_append.mpr ⟨hcs, List.forall_mem_singleton.mpr hp⟩
  · rw [if_neg Bool.false_ne_true, intercalate_map_concat]
    simp

theorem and (h : f.Holds false xs) : f.Holds true (xs ++ [.and]) := by
  obtain ⟨ds, cs, rfl, hds, hcs, hne, rfl⟩ := h
  refine ⟨ds, cs, rfl, hds, hcs, nofun, ?_⟩
  obtain ⟨init, last, rfl⟩ := (List.eq_nil_or_concat' cs).resolve_left (hne rfl)
  rw [if_neg Bool.false_ne_true, intercalate_map_concat]
  simp

theorem stands_concat {ds cs : List (List Symbol × Predicate)}
    (hds : ∀ d ∈ ds, Stands .conjunction d.1 d.2) (hcs : ∀ c ∈ cs, Stands .operand c.1 c.2)
    (hne : cs ≠ []) : ∀ d ∈ ds ++ [conjunctionOf cs], Stands .conjunction d.1 d.2 :=
  List.forall_mem_append.mpr ⟨hds, List.forall_mem_singleton.mpr (.conjunction hne hcs)⟩

theorem or (h : f.Holds false xs) : f.finished.Holds true (xs ++ [.or]) := by
  obtain ⟨ds, cs, rfl, hds, hcs, hne, rfl⟩ := h
  refine ⟨ds ++ [conjunctionOf cs], [], ?_, stands_concat hds hcs (hne rfl),
    List.forall_mem_nil _, nofun, ?_⟩
  · simp [Frame.finished, conjunctionOf]
  · simp [conjunctionOf]

theorem stands (h : f.Holds false xs) : Stands .disjunction xs f.value := by
  obtain ⟨ds, cs, rfl, hds, hcs, hne, rfl⟩ := h
  have hall := Stands.disjunction (by simp) (stands_concat hds hcs (hne rfl))
  rw [intercalate_map_concat] at hall
  simpa [Frame.value, Frame.finished, conjunctionOf] using hall

end Frame.Holds

/-- The symbols that were read into the frames around the innermost one. -/
inductive OuterHold : List Frame → List Symbol → Prop where
  | nil : OuterHold [] []
  | cons {f : Frame} {outer : List Frame} {xs ys : List Symbol} (h : OuterHold outer xs)
    (hf : f.Holds true ys) : OuterHold (f :: outer) (xs ++ ys ++ [.opening])

def Reading.Holds (s : Reading) (xs : List Symbol) : Prop :=
  ∃ ys zs, xs = ys ++ zs ∧ OuterHold s.outer ys ∧ s.frame.Holds s.isOpen zs

theorem Reading.Holds.step {s s' : Reading} {x : Symbol} {xs : List Symbol} (h : s.Holds xs)
    (hstep : s.step x = some s') : s'.Holds (xs ++ [x]) := by
  obtain ⟨frame, outer, isOpen⟩ := s
  obtain ⟨ys, zs, rfl, houter, hframe⟩ := h
  rw [List.append_assoc]
  match x, isOpen, outer, houter, hstep with
  | .atom p, true, _, houter, rfl => exact ⟨ys, _, rfl, houter, hframe.member (.atom p)⟩
  | .opening, true, _, houter, rfl =>
      exact ⟨ys ++ zs ++ [.opening], [], by simp, .cons houter hframe, .start⟩
  | .and, false, _, houter, rfl => exact ⟨ys, _, rfl, houter, hframe.and⟩
  | .or, false, _, houter, rfl => exact ⟨ys, _, rfl, houter, hframe.or⟩
  | .closing, false, _, .cons houter hf, rfl =>
      exact ⟨_, _, by simp, houter, hf.member (.parentheses hframe.stands)⟩

theorem Reading.Holds.run {s s' : Reading} {xs ys : List Symbol} (h : s.Holds xs)
    (hrun : ys.foldlM Reading.step s = some s') : s'.Holds (xs ++ ys) := by
  induction ys generalizing s xs with
  | nil =>
      obtain rfl := Option.some.inj hrun
      rwa [List.append_nil]
  | cons y ys ih =>
      obtain ⟨s₁, hstep, hrun⟩ := Option.bind_eq_some_iff.mp hrun
      simpa using ih (h.step hstep) hrun

/-- The reader reads a condition where the grammar has one, and nothing else. -/
theorem read?_eq_some_iff {xs : List Symbol} {p : Predicate} :
    read? xs = some p ↔ Stands .disjunction xs p := by
  refine ⟨fun h => ?_, Stands.read?_eq⟩
  obtain ⟨⟨frame, outer, isOpen⟩, hrun, hvalue⟩ := Option.bind_eq_some_iff.mp h
  have hstart : Reading.Holds {} [] := ⟨[], [], rfl, .nil, .start⟩
  obtain ⟨ys, zs, hxs, houter, hframe⟩ := hstart.run hrun
  rw [List.nil_append] at hxs
  match isOpen, outer, hvalue, houter with
  | false, [], rfl, .nil =>
      rw [hxs, List.nil_append]
      exact hframe.stands

example (a b c : Predicate) :
    read? [.atom a, .or, .atom b, .and, .atom c] = some (.or [a, .and [b, c]]) := rfl

namespace Predicate

/-! ## Conditions as symbols -/

mutual

def symbols : Predicate → List Symbol
  | .and members => joinedSymbols .and members
  | .or members => joinedSymbols .or members
  | p => [.atom p]

def memberSymbols : Predicate → List Symbol
  | .and members => .opening :: joinedSymbols .and members ++ [.closing]
  | .or members => .opening :: joinedSymbols .or members ++ [.closing]
  | p => [.atom p]

def joinedSymbols (word : Symbol) : List Predicate → List Symbol
  | [] => []
  | [p] => memberSymbols p
  | p :: rest => memberSymbols p ++ word :: joinedSymbols word rest

end

theorem symbols_leaf {p : Predicate} (h : p.isCompound = false) : p.symbols = [.atom p] := by
  cases p <;> simp_all [symbols, isCompound]

theorem memberSymbols_eq (p : Predicate) :
    p.memberSymbols = if p.isCompound then .opening :: p.symbols ++ [.closing] else p.symbols := by
  cases p <;> simp [memberSymbols, isCompound, symbols]

theorem joinedSymbols_cons_cons (word : Symbol) (p q : Predicate) (rest : List Predicate) :
    joinedSymbols word (p :: q :: rest) =
      p.memberSymbols ++ word :: joinedSymbols word (q :: rest) := by
  rw [joinedSymbols]
  exact List.cons_ne_nil q rest

theorem joinedSymbols_eq_intercalate (word : Symbol) (members : List Predicate) :
    joinedSymbols word members = [word].intercalate (members.map memberSymbols) := by
  induction members with
  | nil => rfl
  | cons p rest ih =>
      cases rest with
      | nil => simp [joinedSymbols]
      | cons q rest =>
          rw [joinedSymbols_cons_cons, ih, intercalate_map_cons_cons]
          simp

mutual

/-- The condition without the joints that have a single member. -/
def collapse : Predicate → Predicate
  | .and members => joinMany .and (collapseAll members)
  | .or members => joinMany .or (collapseAll members)
  | p => p

def collapseAll : List Predicate → List Predicate
  | [] => []
  | p :: rest => collapse p :: collapseAll rest

end

theorem collapseAll_eq_map (members : List Predicate) :
    collapseAll members = members.map collapse := by
  induction members with
  | nil => rfl
  | cons p rest ih => rw [collapseAll, ih, List.map_cons]

theorem collapse_and (members : List Predicate) :
    (and members).collapse = joinMany .and (members.map collapse) := by
  rw [collapse, collapseAll_eq_map]

theorem collapse_or (members : List Predicate) :
    (or members).collapse = joinMany .or (members.map collapse) := by
  rw [collapse, collapseAll_eq_map]

theorem collapse_leaf {p : Predicate} (h : p.isCompound = false) : p.collapse = p := by
  cases p <;> simp_all [collapse, isCompound]

/-- Nowhere in the condition does a joint have no member. -/
inductive Full : Predicate → Prop where
  | leaf {p : Predicate} (h : p.isCompound = false) : Full p
  | and {members : List Predicate} (hne : members ≠ []) (h : ∀ p ∈ members, Full p) :
    Full (.and members)
  | or {members : List Predicate} (hne : members ≠ []) (h : ∀ p ∈ members, Full p) :
    Full (.or members)

@[simp]
theorem full_hasLabel (var label : String) : (hasLabel var label).Full := .leaf rfl

@[simp]
theorem full_equal (var property : String) (value : Literal) : (equal var property value).Full :=
  .leaf rfl

@[simp]
theorem full_unequal (var property : String) (value : Literal) :
    (unequal var property value).Full :=
  .leaf rfl

@[simp]
theorem full_isPresent (var property : String) : (isPresent var property).Full := .leaf rfl

@[simp]
theorem full_and {members : List Predicate} :
    (and members).Full ↔ members ≠ [] ∧ ∀ p ∈ members, p.Full := by
  constructor
  · rintro (h | ⟨hne, h⟩)
    · exact nomatch h
    · exact ⟨hne, h⟩
  · rintro ⟨hne, h⟩
    exact .and hne h

@[simp]
theorem full_or {members : List Predicate} :
    (or members).Full ↔ members ≠ [] ∧ ∀ p ∈ members, p.Full := by
  constructor
  · rintro (h | _ | ⟨hne, h⟩)
    · exact nomatch h
    · exact ⟨hne, h⟩
  · rintro ⟨hne, h⟩
    exact .or hne h

/-! ## Reading them back -/

theorem stands_member {p : Predicate} (h : Stands .disjunction p.symbols p.collapse) :
    Stands .operand p.memberSymbols p.collapse := by
  rw [memberSymbols_eq]
  cases hp : p.isCompound with
  | false =>
      rw [if_neg Bool.false_ne_true, collapse_leaf hp, symbols_leaf hp]
      exact .atom p
  | true => exact .parentheses h

theorem Full.stands {p : Predicate} (h : p.Full) : Stands .disjunction p.symbols p.collapse := by
  induction h with
  | leaf hp =>
      rw [symbols_leaf hp, collapse_leaf hp]
      exact (Stands.atom _).conjunction_of_operand.disjunction_of_conjunction
  | @and members hne _ ih =>
      have hmembers : ∀ m ∈ members.map fun p => (p.memberSymbols, p.collapse),
          Stands .operand m.1 m.2 :=
        List.forall_mem_map.mpr fun p hp => stands_member (ih p hp)
      have hall := Stands.conjunction (List.map_eq_nil_iff.not.mpr hne) hmembers
      rw [symbols, collapse_and, joinedSymbols_eq_intercalate]
      simpa [Function.comp_def] using hall.disjunction_of_conjunction
  | @or members hne _ ih =>
      -- a member of a disjunction is a conjunction of one operand
      have hmembers : ∀ m ∈ members.map fun p => (p.memberSymbols, p.collapse),
          Stands .conjunction m.1 m.2 :=
        List.forall_mem_map.mpr fun p hp => (stands_member (ih p hp)).conjunction_of_operand
      have hall := Stands.disjunction (List.map_eq_nil_iff.not.mpr hne) hmembers
      rw [symbols, collapse_or, joinedSymbols_eq_intercalate]
      simpa [Function.comp_def] using hall

theorem read?_symbols {p : Predicate} (h : p.Full) : read? p.symbols = some p.collapse :=
  h.stands.read?_eq

/-! ## What collapsing keeps -/

mutual

/-- The truth of a condition, when the truth of each atom is known. -/
def truth (v : Predicate → Bool) : Predicate → Bool
  | .and members => allTrue v members
  | .or members => someTrue v members
  | p => v p

def allTrue (v : Predicate → Bool) : List Predicate → Bool
  | [] => true
  | p :: rest => truth v p && allTrue v rest

def someTrue (v : Predicate → Bool) : List Predicate → Bool
  | [] => false
  | p :: rest => truth v p || someTrue v rest

end

variable (v : Predicate → Bool)

theorem truth_and (members : List Predicate) : (and members).truth v = members.all (truth v) := by
  rw [truth]
  induction members with
  | nil => rfl
  | cons p rest ih => rw [allTrue, ih, List.all_cons]

theorem truth_or (members : List Predicate) : (or members).truth v = members.any (truth v) := by
  rw [truth]
  induction members with
  | nil => rfl
  | cons p rest ih => rw [someTrue, ih, List.any_cons]

theorem truth_joinMany_and (ps : List Predicate) :
    (joinMany .and ps).truth v = ps.all (truth v) := by
  match ps with
  | [] => rfl
  | [p] => simp [joinMany]
  | p :: q :: rest => exact truth_and v _

theorem truth_joinMany_or (ps : List Predicate) :
    (joinMany .or ps).truth v = ps.any (truth v) := by
  match ps with
  | [] => rfl
  | [p] => simp [joinMany]
  | p :: q :: rest => exact truth_or v _

theorem truth_collapse (p : Predicate) : p.collapse.truth v = p.truth v := by
  induction p using Predicate.induct with
  | hasLabel var label | equal var property value | unequal var property value
  | isPresent var property => rfl
  | and members ih =>
      rw [collapse_and, truth_joinMany_and, truth_and, List.all_map, Bool.eq_iff_iff,
        List.all_eq_true, List.all_eq_true]
      exact forall₂_congr fun p hp => by rw [Function.comp_apply, ih p hp]
  | or members ih =>
      rw [collapse_or, truth_joinMany_or, truth_or, List.any_map, Bool.eq_iff_iff,
        List.any_eq_true, List.any_eq_true]
      exact exists_congr fun p => and_congr_right fun hp => by rw [Function.comp_apply, ih p hp]

theorem atoms_joinMany {join : List Predicate → Predicate}
    (hjoin : ∀ ps, (join ps).atoms = ps.flatMap atoms) (ps : List Predicate) :
    (joinMany join ps).atoms = ps.flatMap atoms := by
  match ps with
  | [] => exact hjoin []
  | [p] => simp [joinMany]
  | p :: q :: rest => exact hjoin _

theorem atoms_collapse (p : Predicate) : p.collapse.atoms = p.atoms := by
  induction p using Predicate.induct with
  | hasLabel var label | equal var property value | unequal var property value
  | isPresent var property => rfl
  | and members ih =>
      rw [collapse_and, atoms_joinMany atoms_and, atoms_and, List.flatMap_map]
      exact List.flatMap_congr ih
  | or members ih =>
      rw [collapse_or, atoms_joinMany atoms_or, atoms_or, List.flatMap_map]
      exact List.flatMap_congr ih

end Predicate

end AssetAtlas.Query
