import AssetAtlas.Criteria.Wire
import AssetAtlas.Files.Basic
import AssetAtlas.Report.Format
import AssetAtlas.Store.Endpoint

/-!
Settings: what a user keeps in a file so that it need not be given on every command line.
-/

namespace AssetAtlas

/-- The settings of a file. Each can be missing. -/
structure Settings where
  endpoint : Option String := none
  token : Option String := none
  timeout : Option UInt64 := none
  showInternet : Option Bool := none
  viewport : Option Float := none
  format : Option ReportFormat := none
  filters : Option Criteria := none
  /-- The names in the file that are no settings. -/
  unknown : Dictionary Unit := {}

inductive SettingsFault where
  | unreadable (path : String) (cause : FileFault)
  | malformed (path : String) (cause : WireFault)
  | notWeb (address : String)
  | noTime
  | badViewport (width : Float)

namespace SettingsFault

def message : SettingsFault → String
  | .unreadable path _ =>
    s!"Failed to read config file: {path}\n\n💡 Hint: Check that the file exists and is readable."
  | .malformed path _ =>
    s!"Failed to parse config file: {path}\n\n💡 Hint: Ensure the file contains valid YAML and each filter sets at most one of bidirectional/fullGraph."
  | .notWeb address =>
    s!"Invalid config: endpoint '{address}' is not an http(s) URL.\n\n💡 Hint: Use the full query URL, e.g. \"http://localhost:5000/neo4j/query\"."
  | .noTime =>
    "Invalid config: timeout_seconds must be greater than 0.\n\n💡 Hint: Remove the field to use the default of 30 seconds."
  | .badViewport width =>
    s!"Invalid config: viewport_width must be a positive number, got {Decimal.Style.message.text width}."

def cause? : SettingsFault → Option String
  | .unreadable _ cause => some cause.message
  | .malformed _ cause => some cause.message
  | _ => none

end SettingsFault

namespace Settings

def isWidth (x : Float) : Bool :=
  x.isFinite && !(x ≤ 0)

/-- Checks what can be told to be wrong without asking the store. The address is looked at without
the blank characters around it. -/
def validate (s : Settings) : Except SettingsFault Unit := do
  if let some endpoint := s.endpoint then
    let address := Text.trim endpoint
    if !isWebAddress address then throw (.notWeb address)
  if s.timeout = some 0 then throw .noTime
  if let some width := s.viewport then
    if !isWidth width then throw (.badViewport width)

end Settings

end AssetAtlas
