import AssetAtlas.Files.Input
import AssetAtlas.Files.Path

/-!
Where a report goes: to the output of the program, or into a file. A file is never written through a
link, and its directory has to be there.
-/

namespace AssetAtlas

inductive Destination where
  | output
  | file (path : String)
deriving DecidableEq, Repr

/-- A path names a file; without one a report goes to the output. -/
def Destination.ofPath : Option String → Destination
  | none => .output
  | some path => .file path

structure Console (m : Type → Type) where
  output : String → m Unit
  note : String → m Unit

/-- A report as it is written to the output: it ends a line. -/
def withNewline (text : String) : String :=
  if Text.finishesWith text "\n" then text else text ++ "\n"

namespace FileSystem

variable {m : Type → Type} [Monad m]

/-- Checks that a file can be written at a path; the failure says what stands against it. -/
def checkTarget (fs : FileSystem m) (path : String) : m (Except String Unit) := do
  let parent := Path.parent path
  if !parent.isEmpty && !(← fs.hasDirectory parent) then
    return .error s!"Parent directory does not exist: {parent}"
  match ← fs.look path with
  | .error _ => return .ok ()
  | .ok _ =>
    match ← fs.refuseLink path "write" with
    | .error fault => return .error fault.message
    | .ok () => return .ok ()

def writeReport (fs : FileSystem m) (path text : String) : m (Except Fault Unit) := do
  match ← fs.checkTarget path with
  | .error details => return .error (.unwritable path details)
  | .ok () =>
    match ← fs.write path text with
    | .error fault => return .error (.unwritable path fault.message)
    | .ok () => return .ok ()

end FileSystem

def Destination.present {m : Type → Type} [Monad m] (d : Destination) (fs : FileSystem m)
    (console : Console m) (text : String) : m (Except Fault Unit) := do
  match d with
  | .output =>
    console.output (withNewline text)
    return .ok ()
  | .file path =>
    match ← fs.writeReport path text with
    | .error fault => return .error fault
    | .ok () =>
      console.note s!"✅ Graph written to {path}\n"
      return .ok ()

end AssetAtlas
