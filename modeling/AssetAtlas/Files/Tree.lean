import AssetAtlas.Files.Basic
import AssetAtlas.Files.Path

/-!
A tree of files as a value, with the usual rules for paths: links are followed where a path goes
through them, a path through a file leads nowhere, and a path written as that of a directory does not
lead to a file.
-/

namespace AssetAtlas

inductive FileEntry where
  | file (content : ByteArray)
  | directory
  | link (target : String)
deriving Inhabited

def FileEntry.kind : FileEntry → FileKind
  | .file content => .file content.size
  | .directory => .directory
  | .link _ => .link

/-- A place in a tree: the names from the root on. -/
abbrev Place := List String

/-- A tree of files: what stands at its places. The root is a directory. -/
structure FileTree where
  entries : List (Place × FileEntry) := []
deriving Inhabited

namespace FileTree

def entry? (t : FileTree) (place : Place) : Option FileEntry :=
  if place.isEmpty then some .directory else t.entries.lookup place

def put (t : FileTree) (place : Place) (entry : FileEntry) : FileTree :=
  ⟨(place, entry) :: t.entries.filter (·.1 != place)⟩

def maxLinks : Nat := 40

def maxName : Nat := 255

/-- Goes along names from a place. Answers the place where the path ends and what is there; nothing
may be there only under the last name. -/
def walk (t : FileTree) (follow : Bool) (links : Nat) (here : Place) :
    List String → Except FileFault (Place × Option FileEntry)
  | [] => .ok (here, some .directory)
  | name :: rest =>
    let there := here ++ [name]
    if name = ".." then walk t follow links here.dropLast rest
    else if maxName < name.utf8ByteSize then .error .nameTooLong
    else match t.entry? there with
      | none => if rest.isEmpty then .ok (there, none) else .error .missing
      | some .directory => walk t follow links there rest
      | some (.file content) =>
        if rest.isEmpty then .ok (there, some (.file content)) else .error .notDirectory
      | some (.link target) =>
        if rest.isEmpty && !follow then .ok (there, some (.link target))
        else match links with
          | 0 => .error .linkLoop
          | links + 1 => walk t follow links here (Path.names target ++ rest)
termination_by names => (links, names.length)

def find (t : FileTree) (follow : Bool) (path : String) :
    Except FileFault (Place × Option FileEntry) := do
  if path.isEmpty then throw .missing
  let directory := Path.isDirectoryForm path
  let found ← t.walk (follow || directory) maxLinks [] (Path.names path)
  match found.2 with
  | some (.file _) => if directory then throw .notDirectory else return found
  | _ => return found

def kind (t : FileTree) (follow : Bool) (path : String) : Except FileFault FileKind := do
  match ← t.find follow path with
  | (_, some entry) => return entry.kind
  | (_, none) => throw .missing

def content (t : FileTree) (path : String) : Except FileFault ByteArray := do
  match ← t.find true path with
  | (_, some (.file content)) => return content
  | (_, some _) => throw .isDirectory
  | (_, none) => throw .missing

/-- The tree in which a path leads to a file with the given content. -/
def setContent (t : FileTree) (path : String) (content : ByteArray) : Except FileFault FileTree := do
  match ← t.find true path with
  | (place, some (.file _)) => return t.put place (.file content)
  | (_, some _) => throw .isDirectory
  | (place, none) =>
    if Path.isDirectoryForm path then throw .isDirectory
    else return t.put place (.file content)

/-- The file system of a tree that changes as files are written. -/
def system : FileSystem (StateM FileTree) where
  look path := return (← get).kind false path
  follow path := return (← get).kind true path
  read path := return (← get).content path
  write path text := do
    match (← get).setContent path text.toUTF8 with
    | .ok t => set t; return .ok ()
    | .error fault => return .error fault

end FileTree

end AssetAtlas
