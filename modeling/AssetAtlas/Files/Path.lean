import AssetAtlas.Text.Blank

/-!
Paths are texts; names in them are separated by slashes.
-/

namespace AssetAtlas.Path

/-- Whether a segment of a path leads nowhere. -/
def isIdle (segment : String) : Bool :=
  segment = "" || segment = "."

/-- The segments of a path, with those that lead nowhere. -/
def segments (path : String) : List String :=
  path.splitOn "/"

def names (path : String) : List String :=
  (segments path).filter (!isIdle ·)

/-- Whether a path is written as that of a directory. -/
def isDirectoryForm (path : String) : Bool :=
  match (segments path).getLast? with
  | some segment => isIdle segment
  | none => false

/-- Drops the idle segments at the end, except the first segment, which says where a path starts. -/
def trimIdle : List String → List String
  | [] => []
  | first :: rest => first :: (rest.reverse.dropWhile isIdle).reverse

/-- The segments of a path without the last name and what leads nowhere around it. -/
def parentSegments (path : String) : List String :=
  trimIdle (trimIdle (segments path)).dropLast

/-- The path of the directory in which the last name of a path stands; empty for a lone name. A
single empty segment is the one in front of a leading slash. -/
def parent (path : String) : String :=
  match parentSegments path with
  | [""] => "/"
  | l => "/".intercalate l

/-- The part of the last name behind its last dot. A name that only begins with a dot has none. -/
def extension? (path : String) : Option String := do
  let name ← (names path).getLast?
  let behind := (name.toList.reverse.takeWhile (· != '.')).reverse
  let front := name.length - behind.length
  if front ≤ 1 then none else some (String.ofList behind)

end AssetAtlas.Path
