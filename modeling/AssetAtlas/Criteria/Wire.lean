import AssetAtlas.Criteria.Basic
import AssetAtlas.TreeFormat

/-!
Criteria as they are saved and sent: records of nullable texts and three mode flags. Reading refuses
a record that asks for both directions and for whole paths; it trims texts and drops blank ones.
-/

namespace AssetAtlas

inductive WireFault where
  /-- A column has the wrong kind, is written twice, or the record is none. -/
  | malformed
  /-- The record asks for both directions and for whole paths. -/
  | conflictingModes
deriving DecidableEq, Repr

def contradictoryModes : Fault :=
  .contradictory "'bidirectional' and 'fullGraph' cannot both be enabled"

def WireFault.message : WireFault → String
  | .malformed => "this is no list of criteria"
  | .conflictingModes => contradictoryModes.message

structure WireCriterion where
  source : Option String := none
  relationship : Option String := none
  target : Option String := none
  severity : Option String := none
  package : Option String := none
  cve : Option String := none
  single : Bool := false
  bidirectional : Bool := false
  fullGraph : Bool := false
deriving DecidableEq, Repr

namespace WireCriterion

def columns : List String :=
  ["sourceType", "relationship", "targetType", "severity", "packageName", "cveId",
    "showSingleNodeType", "bidirectional", "fullGraph"]

/-- The text in a column; a missing column is null. -/
def textColumn? {σ : Type} (f : TreeFormat σ) : Option σ → Option (Option String)
  | none => some none
  | some s => f.text? s

/-- The flag in a column; a missing column is not set. -/
def flagColumn? {σ : Type} (f : TreeFormat σ) : Option σ → Option Bool
  | none => some false
  | some s => f.flag? s

def read? {σ : Type} (f : TreeFormat σ) (s : σ) : Option WireCriterion :=
  match f.columns? columns s with
  | some [source, relationship, target, severity, package, cve, single, both, full] => do
    return {
      source := ← textColumn? f source
      relationship := ← textColumn? f relationship
      target := ← textColumn? f target
      severity := ← textColumn? f severity
      package := ← textColumn? f package
      cve := ← textColumn? f cve
      single := ← flagColumn? f single
      bidirectional := ← flagColumn? f both
      fullGraph := ← flagColumn? f full }
  | _ => none

def criterion (w : WireCriterion) : Except WireFault Criterion :=
  if w.bidirectional && w.fullGraph then .error .conflictingModes
  else .ok (.ofTexts w.source w.relationship w.target w.severity w.package w.cve
    (.ofFlags w.single w.fullGraph w.bidirectional))

def ofCriterion (c : Criterion) : WireCriterion where
  source := c.source.map (·.text anyResource)
  relationship := c.relationship.map (·.text anyRelationship)
  target := c.target.map (·.text anyResource)
  severity := c.filters.severity
  package := c.filters.package
  cve := c.filters.cve
  single := c.mode = .singleNode
  bidirectional := c.mode = .bidirectional
  fullGraph := c.mode = .fullGraph

def textValue : Option String → Json
  | some s => .string s
  | none => .null

def toJson (w : WireCriterion) : Json :=
  .object (columns.zip
    [textValue w.source, textValue w.relationship, textValue w.target, textValue w.severity,
      textValue w.package, textValue w.cve, .bool w.single, .bool w.bidirectional,
      .bool w.fullGraph])

end WireCriterion

namespace Criterion

def read {σ : Type} (f : TreeFormat σ) (s : σ) : Except WireFault Criterion :=
  match WireCriterion.read? f s with
  | some w => w.criterion
  | none => .error .malformed

def toJson (c : Criterion) : Json :=
  (WireCriterion.ofCriterion c).toJson

end Criterion

namespace Criteria

/-- Reads the criteria of a list of records; the first record that is none decides the fault. -/
def readItems {σ : Type} (f : TreeFormat σ) (items : List σ) : Except WireFault Criteria := do
  return ofList (← items.mapM (Criterion.read f))

def read {σ : Type} (f : TreeFormat σ) (s : σ) : Except WireFault Criteria :=
  match f.items? s with
  | some items => readItems f items
  | none => .error .malformed

def toJson (cs : Criteria) : Json :=
  .array (cs.list.map Criterion.toJson)

end Criteria

end AssetAtlas
