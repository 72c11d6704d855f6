import AssetAtlas.Fault
import AssetAtlas.Files.Basic

/-!
Precautions with the files of the user. Links are refused where the content of another file could be
disclosed or replaced through them, and a file that is read into memory has a bounded size.
-/

namespace AssetAtlas.FileSystem

variable {m : Type → Type} [Monad m]

def maxInputSize : Nat := 1024 * 1024

/-- Refuses a path at which there is a link or nothing; the operation is named in the failure. -/
def refuseLink (fs : FileSystem m) (path operation : String) : m (Except Fault Unit) := do
  match ← fs.look path with
  | .error fault =>
    return .error (.other
      s!"Failed to read metadata for {operation} operation on {path}: {fault.message}")
  | .ok .link =>
    return .error (.other
      s!"Security: {path} is a symbolic link. {operation} operations on symbolic links are not allowed.")
  | .ok _ => return .ok ()

/-- The text of a small regular file; the description says what it is for. -/
def readInput (fs : FileSystem m) (path description : String) : m (Except Fault String) := do
  match ← fs.look path with
  | .error fault =>
    return .error (.other s!"Failed to read {description} {path}: {fault.message}")
  | .ok .link =>
    return .error (.other
      s!"Security: {description} {path} is a symbolic link. Symbolic links are not allowed.")
  | .ok .directory =>
    return .error (.other s!"{description} {path} is not a regular file")
  | .ok (.file size) =>
    if maxInputSize < size then
      return .error (.other
        s!"Security: {description} {path} is too large ({size} bytes). Maximum allowed size is {maxInputSize} bytes.")
    match ← fs.readText path with
    | .error fault =>
      return .error (.other s!"Failed to read {description} {path}: {fault.message}")
    | .ok text => return .ok text

end AssetAtlas.FileSystem
