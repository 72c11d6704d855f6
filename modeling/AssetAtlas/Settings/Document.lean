import AssetAtlas.Settings.Basic
import AssetAtlas.Yaml.Value

/-!
Settings as they are written: a YAML mapping. Its members are taken in their order; those with names
that are no settings are kept by name and must be values of some kind.
-/

namespace AssetAtlas.Settings

def maxDepth : Nat := 127

/-- The format of a report: its name, or its name as a tag of nothing. -/
def format? : Yaml.Node → Option ReportFormat
  | .scalar (some ('!' :: tag)) style text =>
    if style = .plain ∧ (text.isEmpty ∨ Yaml.isNullText (String.ofList text)) then
      ReportFormat.ofName? (String.ofList tag)
    else none
  | n => n.scalarText?.bind ReportFormat.ofName?

/-- What has been read of settings: the members so far, and what was written under unknown names. -/
structure Partial where
  settings : Settings := {}
  seen : List String := []
  others : List Yaml.Node := []

def orMalformed {α : Type} : Option α → Except WireFault α
  | some a => .ok a
  | none => .error .malformed

def nullable {α : Type} (read? : Yaml.Node → Option α) (n : Yaml.Node) : Except WireFault (Option α) :=
  orMalformed (n.nullable? read?)

/-- Sets the setting with a name; nothing if there is none. -/
def set? (s : Settings) (name : String) (n : Yaml.Node) : Option (Except WireFault Settings) :=
  match name with
  | "endpoint" => some do return { s with endpoint := ← nullable Yaml.Node.scalarText? n }
  | "token" => some do return { s with token := ← nullable Yaml.Node.scalarText? n }
  | "timeout_seconds" =>
    some do return { s with timeout := ← nullable (Yaml.Node.meaning? "int" Yaml.wordOf?) n }
  | "show_internet" =>
    some do return { s with showInternet := ← nullable (Yaml.Node.meaning? "bool" Yaml.boolOf?) n }
  | "viewport_width" =>
    some do return { s with viewport := ← nullable (Yaml.Node.meaning? "float" Yaml.floatOf?) n }
  | "format" => some do return { s with format := ← nullable format? n }
  | "filters" => some do
    match ← nullable some n with
    | some list => return { s with filters := some (← Criteria.read Yaml.Node.format list) }
    | none => return { s with filters := none }
  | _ => none

/-- Takes one member. A setting cannot be given twice. -/
def Partial.member (p : Partial) (key value : Yaml.Node) : Except WireFault Partial := do
  let name ← orMalformed key.scalarText?
  match p.settings.set? name value with
  | some read =>
    if p.seen.contains name then throw .malformed
    return { p with settings := ← read, seen := name :: p.seen }
  | none =>
    if !value.isValue maxDepth then throw .malformed
    return { p with
      settings := { p.settings with unknown := p.settings.unknown.insert name () }
      others := value :: p.others }

def Partial.members (p : Partial) : List (Yaml.Node × Yaml.Node) → Except WireFault Partial
  | [] => .ok p
  | (key, value) :: rest => do (← p.member key value).members rest

/-- Reads settings. What is written as nothing is no setting at all. -/
def ofNode : Yaml.Node → Except WireFault Settings
  | .mapping _ members => do
    let p ← Partial.members {} members
    if p.others.all (·.hasDistinctKeys) then return p.settings else throw .malformed
  | n => if n.isVoid then .ok {} else .error .malformed

def ofText (s : String) : Except WireFault Settings :=
  (Yaml.Document.ofText s).read .malformed ofNode

end AssetAtlas.Settings
