import AssetAtlas.Text.Encoding

/-!
Files as the program meets them. What a file system does is told by four operations; anything that
offers them will do, the one of the machine as well as a tree of files that is a value.
-/

namespace AssetAtlas

inductive FileFault where
  /-- The system refuses, with its number and words for the reason. -/
  | refused (code : Nat) (words : String)
  | notText
deriving DecidableEq, Repr

namespace FileFault

def missing : FileFault := .refused 2 "No such file or directory"

def notDirectory : FileFault := .refused 20 "Not a directory"

def isDirectory : FileFault := .refused 21 "Is a directory"

def nameTooLong : FileFault := .refused 36 "File name too long"

def linkLoop : FileFault := .refused 40 "Too many levels of symbolic links"

def message : FileFault → String
  | .refused code words => s!"{words} (os error {code})"
  | .notText => "stream did not contain valid UTF-8"

end FileFault

inductive FileKind where
  | file (size : Nat)
  | directory
  | link
deriving DecidableEq, Repr

structure FileSystem (m : Type → Type) where
  /-- What is at a path; a link is not followed. -/
  look : String → m (Except FileFault FileKind)
  /-- What is at a path; links are followed. -/
  follow : String → m (Except FileFault FileKind)
  read : String → m (Except FileFault ByteArray)
  /-- Makes a text the content of the file at a path, a new one if there is none. -/
  write : String → String → m (Except FileFault Unit)

namespace FileSystem

variable {m : Type → Type} [Monad m]

def has (fs : FileSystem m) (path : String) : m Bool := do
  return (← fs.follow path).isOk

def hasDirectory (fs : FileSystem m) (path : String) : m Bool := do
  match ← fs.follow path with
  | .ok .directory => return true
  | _ => return false

def readText (fs : FileSystem m) (path : String) : m (Except FileFault String) := do
  match ← fs.read path with
  | .error fault => return .error fault
  | .ok bytes =>
    match Text.ofUtf8? bytes with
    | some text => return .ok text
    | none => return .error .notText

end FileSystem

end AssetAtlas
