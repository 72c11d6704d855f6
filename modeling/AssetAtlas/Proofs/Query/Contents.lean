import AssetAtlas.Query.Token

/-!
What stands in a program tree: its variables, the labels and relationship types that it names, and
the texts that it compares with, each from left to right as they are written.
-/

namespace AssetAtlas.Query

def Literal.text? : Literal → Option String
  | .text s => some s
  | .bool _ => none

namespace Predicate

mutual

/-- The conditions that do not join others, from left to right. -/
def atoms : Predicate → List Predicate
  | .and members => atomsOfAll members
  | .or members => atomsOfAll members
  | p => [p]

def atomsOfAll : List Predicate → List Predicate
  | [] => []
  | p :: rest => atoms p ++ atomsOfAll rest

end

theorem atomsOfAll_eq_flatMap (members : List Predicate) :
    atomsOfAll members = members.flatMap atoms := by
  induction members with
  | nil => rfl
  | cons p rest ih => rw [atomsOfAll, ih, List.flatMap_cons]

theorem atoms_and (members : List Predicate) : (and members).atoms = members.flatMap atoms :=
  atomsOfAll_eq_flatMap members

theorem atoms_or (members : List Predicate) : (or members).atoms = members.flatMap atoms :=
  atomsOfAll_eq_flatMap members

/-- What holds of the conditions that join no others, and of a condition as soon as it holds of all
that it joins, holds of every condition. -/
@[elab_as_elim]
theorem induct {motive : Predicate → Prop} (hasLabel : ∀ var label, motive (.hasLabel var label))
    (equal : ∀ var property value, motive (.equal var property value))
    (unequal : ∀ var property value, motive (.unequal var property value))
    (isPresent : ∀ var property, motive (.isPresent var property))
    (and : ∀ members, (∀ p ∈ members, motive p) → motive (.and members))
    (or : ∀ members, (∀ p ∈ members, motive p) → motive (.or members)) (p : Predicate) :
    motive p :=
  @Predicate.rec motive (fun members => ∀ p ∈ members, motive p) hasLabel equal unequal isPresent
    and or (fun _ hp => absurd hp List.not_mem_nil)
    (fun _ _ hhead htail => List.forall_mem_cons.mpr ⟨hhead, htail⟩) p

def ownVariable? : Predicate → Option String
  | .hasLabel var _ | .equal var _ _ | .unequal var _ _ | .isPresent var _ => some var
  | .and _ | .or _ => none

/-- The label that a condition asks for by itself. -/
def ownLabel? : Predicate → Option String
  | .hasLabel _ label => some label
  | _ => none

/-- The text that a condition compares with by itself. -/
def ownText? : Predicate → Option String
  | .equal _ _ value | .unequal _ _ value => value.text?
  | _ => none

/-- What is read off a condition by reading it off its atoms. -/
def collect {α : Type} (own? : Predicate → Option α) (p : Predicate) : List α :=
  p.atoms.filterMap own?

theorem collect_leaf {α : Type} (own? : Predicate → Option α) {p : Predicate}
    (h : p.isCompound = false) : p.collect own? = (own? p).toList := by
  have hatoms : p.atoms = [p] := by
    cases p <;> simp_all [atoms, isCompound]
  rw [collect, hatoms]
  cases hown : own? p <;> simp [hown]

theorem collect_flatMap {α : Type} (own? : Predicate → Option α) (members : List Predicate) :
    (members.flatMap atoms).filterMap own? = members.flatMap (collect own?) := by
  induction members with
  | nil => rfl
  | cons p rest ih => rw [List.flatMap_cons, List.filterMap_append, ih, List.flatMap_cons, collect]

theorem collect_and {α : Type} (own? : Predicate → Option α) (members : List Predicate) :
    (and members).collect own? = members.flatMap (collect own?) := by
  rw [collect, atoms_and, collect_flatMap]

theorem collect_or {α : Type} (own? : Predicate → Option α) (members : List Predicate) :
    (or members).collect own? = members.flatMap (collect own?) := by
  rw [collect, atoms_or, collect_flatMap]

def vars : Predicate → List String :=
  collect ownVariable?

def names : Predicate → List String :=
  collect ownLabel?

def texts : Predicate → List String :=
  collect ownText?

@[simp]
theorem vars_hasLabel (var label : String) : (hasLabel var label).vars = [var] :=
  collect_leaf _ rfl

@[simp]
theorem vars_equal (var property : String) (value : Literal) :
    (equal var property value).vars = [var] :=
  collect_leaf _ rfl

@[simp]
theorem vars_unequal (var property : String) (value : Literal) :
    (unequal var property value).vars = [var] :=
  collect_leaf _ rfl

@[simp]
theorem vars_isPresent (var property : String) : (isPresent var property).vars = [var] :=
  collect_leaf _ rfl

@[simp]
theorem vars_and (members : List Predicate) : (and members).vars = members.flatMap vars :=
  collect_and _ members

@[simp]
theorem vars_or (members : List Predicate) : (or members).vars = members.flatMap vars :=
  collect_or _ members

end Predicate

def Pattern.names : Pattern → List String
  | .node n => n.label.toList
  | .link source l target | .path _ source l target =>
    source.label.toList ++ l.kind.toList ++ target.label.toList

def Pattern.vars : Pattern → List String
  | .node n => [n.var]
  | .link source l target => source.var :: l.var.toList ++ [target.var]
  | .path var source l target => var :: source.var :: l.var.toList ++ [target.var]

def Term.vars : Term → List String
  | .var name | .startOf name | .endOf name => [name]
  | .null => []

def Columns.vars : Columns → List String
  | .triple n r m => n.vars ++ r.vars ++ m.vars
  | .count t => t.vars

namespace Branch

def vars (b : Branch) : List String :=
  b.patterns.flatMap (·.pattern.vars) ++ b.condition.toList.flatMap Predicate.vars ++
    b.unwinding.toList.flatMap (fun u => [u.path, u.var]) ++ b.columns.vars

def names (b : Branch) : List String :=
  b.patterns.flatMap (·.pattern.names) ++ b.condition.toList.flatMap Predicate.names

def texts (b : Branch) : List String :=
  b.condition.toList.flatMap Predicate.texts

end Branch

namespace Program

def names (p : Program) : List String :=
  p.branches.flatMap Branch.names

def texts (p : Program) : List String :=
  p.branches.flatMap Branch.texts

def HasWordVariables (p : Program) : Prop :=
  ∀ b ∈ p.branches, ∀ v ∈ b.vars, isWord v = true

end Program

end AssetAtlas.Query
