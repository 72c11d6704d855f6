import AssetAtlas.Criteria.Wire
import AssetAtlas.Files.Input
import AssetAtlas.Files.Path
import AssetAtlas.Yaml.Reading

/-!
Files of criteria: a list of records in JSON or in YAML. Records are taken one after the other, so a
record that contradicts itself is reported even when the text stops making sense behind it.
-/

namespace AssetAtlas.Criteria

/-- Whether a path is that of a JSON file; all other files are YAML. -/
def isJsonPath (path : String) : Bool :=
  (Path.extension? path).any (Text.sameIgnoringCase · "json")

def ofJsonText (s : String) : Except WireFault Criteria :=
  match Draft.ofText s with
  | .complete d => read Draft.format d
  | .broken items _ => do
    let _ ← readItems Draft.format items
    throw .malformed

def ofYamlText (s : String) : Except WireFault Criteria :=
  (Yaml.Document.ofText s).read .malformed (read Yaml.Node.format)

def ofFileText (path s : String) : Except WireFault Criteria :=
  if isJsonPath path then ofJsonText s else ofYamlText s

def load {m : Type → Type} [Monad m] (fs : FileSystem m) (path : String) :
    m (Except Fault Criteria) := do
  match ← fs.readInput path "criteria file" with
  | .error fault => return .error (.unreadable path fault.message)
  | .ok text =>
    match ofFileText path text with
    | .ok criteria => return .ok criteria
    | .error fault =>
      return .error (.unreadable path s!"Invalid criteria list: {fault.message}")

end AssetAtlas.Criteria
