import AssetAtlas.Console.Presentation
import AssetAtlas.Console.Reporter
import AssetAtlas.Settings.Document

/-!
The file in which settings are kept. One that is named has to be there; without a name a file is
looked for where the program runs. Names in it that are no settings are warned about.
-/

namespace AssetAtlas.Settings

variable {m : Type → Type} [Monad m]

def fileName : String := "asset-graph.config.yml"

def ofFileText (path text : String) : Except SettingsFault Settings := do
  match ofText text with
  | .error fault => throw (.malformed path fault)
  | .ok s =>
    s.validate
    return s

def warnings (s : Settings) : List String :=
  s.unknown.keys.map fun name => warningText s!"Unknown config field '{name}' will be ignored."

def load (fs : FileSystem m) (console : Console m) (path : String) :
    m (Except SettingsFault Settings) := do
  match ← fs.readText path with
  | .error fault => return .error (.unreadable path fault)
  | .ok text =>
    match ofFileText path text with
    | .error fault => return .error fault
    | .ok s =>
      s.warnings.forM console.note
      return .ok s

/-- Reads the settings in the file that is looked for, if it is there. -/
def discover (fs : FileSystem m) (console : Console m) :
    m (Except SettingsFault (Option Settings)) := do
  if ← fs.has fileName then
    return (← load fs console fileName).map some
  else return .ok none

end AssetAtlas.Settings
