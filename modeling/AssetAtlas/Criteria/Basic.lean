import AssetAtlas.Fault
import AssetAtlas.Text.Blank

/-!
Criteria: what part of the asset graph is asked for. A criterion selects nodes by their label on a
source and a target side, relationships by their type, and vulnerabilities by their attributes. A
list of criteria is never empty; a blank criterion stands in for none.
-/

namespace AssetAtlas

inductive Selector where
  | any
  | named (name : String)
deriving DecidableEq, Repr

namespace Selector

def name? : Selector → Option String
  | .any => none
  | .named name => some name

/-- Reads a selector; the wildcard selects everything. -/
def ofText (wildcard text : String) : Selector :=
  if text = wildcard then .any else .named text

def text (wildcard : String) : Selector → String
  | .any => wildcard
  | .named name => name

end Selector

def anyResource : String := "any_resource"

def anyRelationship : String := "any_relationship"

inductive Mode where
  /-- One relationship from source to target. -/
  | relationship
  /-- Nodes of the source label only. -/
  | singleNode
  /-- One relationship, in either direction. -/
  | bidirectional
  /-- Paths of several relationships from source to target. -/
  | fullGraph
deriving DecidableEq, Repr

namespace Mode

/-- The mode that three flags ask for; the first that is set in this order decides. -/
def ofFlags (single full both : Bool) : Mode :=
  if single then .singleNode
  else if full then .fullGraph
  else if both then .bidirectional
  else .relationship

end Mode

structure Filters where
  severity : Option String := none
  package : Option String := none
  cve : Option String := none
deriving DecidableEq, Repr

def Filters.isEmpty (f : Filters) : Bool :=
  f.severity.isNone && f.package.isNone && f.cve.isNone

/-- One entry of the list of criteria. A selector that is absent was not set. -/
structure Criterion where
  source : Option Selector := none
  relationship : Option Selector := none
  target : Option Selector := none
  filters : Filters := {}
  mode : Mode := .relationship
deriving DecidableEq, Repr

namespace Criterion

def blank : Criterion := {}

instance : Inhabited Criterion := ⟨blank⟩

/-- `source -[relationship]-> target` -/
def between (source relationship target : String) : Criterion where
  source := some (.ofText anyResource source)
  relationship := some (.ofText anyRelationship relationship)
  target := some (.ofText anyResource target)

def nodes (source : String) : Criterion where
  source := some (.ofText anyResource source)
  mode := .singleNode

def withMode (c : Criterion) (mode : Mode) : Criterion :=
  { c with mode }

/-- The same criterion for one severity; a blank text takes the filter away. -/
def withSeverity (c : Criterion) (severity : String) : Criterion :=
  { c with filters := { c.filters with severity := Text.nonBlank? severity } }

def withPackage (c : Criterion) (package : String) : Criterion :=
  { c with filters := { c.filters with package := Text.nonBlank? package } }

def withCve (c : Criterion) (cve : String) : Criterion :=
  { c with filters := { c.filters with cve := Text.nonBlank? cve } }

/-- Whether the criterion selects nothing of its own: it has no source. -/
def isBlank (c : Criterion) : Bool :=
  c.source.isNone

def relationshipOrAny (c : Criterion) : Selector :=
  c.relationship.getD .any

def targetOrAny (c : Criterion) : Selector :=
  c.target.getD .any

/-- A criterion from texts that may be absent or blank, as files give them. -/
def ofTexts (source relationship target severity package cve : Option String) (mode : Mode) :
    Criterion where
  source := (source.bind Text.nonBlank?).map (.ofText anyResource)
  relationship := (relationship.bind Text.nonBlank?).map (.ofText anyRelationship)
  target := (target.bind Text.nonBlank?).map (.ofText anyResource)
  filters :=
    { severity := severity.bind Text.nonBlank?
      package := package.bind Text.nonBlank?
      cve := cve.bind Text.nonBlank? }
  mode := mode

end Criterion

/-- A list of criteria, which is never empty. -/
structure Criteria where
  list : List Criterion
  nonempty : list ≠ []
deriving DecidableEq

namespace Criteria

def single (c : Criterion) : Criteria := ⟨[c], by simp⟩

def default : Criteria := single .blank

instance : Inhabited Criteria := ⟨default⟩

/-- The criteria of a list; an empty one counts as one blank criterion. -/
def ofList : List Criterion → Criteria
  | [] => default
  | c :: rest => ⟨c :: rest, by simp⟩

theorem ofList_list (cs : Criteria) : ofList cs.list = cs := by
  obtain ⟨_ | ⟨c, rest⟩, hne⟩ := cs
  · exact absurd rfl hne
  · rfl

def size (cs : Criteria) : Nat :=
  cs.list.length

def get? (cs : Criteria) (index : Nat) : Option Criterion :=
  cs.list[index]?

def add (cs : Criteria) (c : Criterion) : Criteria :=
  ⟨cs.list ++ [c], by simp⟩

def outOfRange (cs : Criteria) (index : Nat) : Fault :=
  .invalid s!"Criterion index {index} is out of range (list has {cs.size} entries)"

/-- Takes away the criterion at an index; of the last one a blank criterion is left. -/
def remove (cs : Criteria) (index : Nat) : Except Fault Criteria :=
  if index < cs.size then .ok (.ofList (cs.list.eraseIdx index)) else .error (cs.outOfRange index)

def update (cs : Criteria) (index : Nat) (c : Criterion) : Except Fault Criteria :=
  if index < cs.size then
    .ok ⟨cs.list.set index c, fun h => cs.nonempty ((List.set_eq_nil_iff _ _).1 h)⟩
  else .error (cs.outOfRange index)

end Criteria

end AssetAtlas
