import AssetAtlas.Json.Value

/-!
Writing JSON: on one line without space, or spread over lines with two spaces per level. Characters
outside ASCII stand for themselves; quotes, backslashes and control characters are escaped.
-/

namespace AssetAtlas.Json

def hexChar (n : Nat) : Char :=
  if n < 10 then Char.ofNat ('0'.toNat + n) else Char.ofNat ('a'.toNat + (n - 10))

def escapeChar (c : Char) : List Char :=
  if c = '\x22' then ['\\', '\x22']
  else if c = '\\' then ['\\', '\\']
  else if c = '\n' then ['\\', 'n']
  else if c = '\r' then ['\\', 'r']
  else if c = '\t' then ['\\', 't']
  else if c = '\x08' then ['\\', 'b']
  else if c = '\x0c' then ['\\', 'f']
  else if c.toNat < 0x20 then
    ['\\', 'u', '0', '0', hexChar (c.toNat / 16), hexChar (c.toNat % 16)]
  else [c]

def quote (s : String) : String :=
  String.ofList ('\x22' :: s.toList.flatMap escapeChar ++ ['\x22'])

mutual

def compact : Json → String
  | .null => "null"
  | .bool b => if b then "true" else "false"
  | .number n => n.text
  | .string s => quote s
  | .array items => "[" ++ compactItems items ++ "]"
  | .object members => "\x7b" ++ compactMembers members ++ "\x7d"

def compactItems : List Json → String
  | [] => ""
  | [j] => compact j
  | j :: rest => compact j ++ "," ++ compactItems rest

def compactMembers : List (String × Json) → String
  | [] => ""
  | [(key, j)] => quote key ++ ":" ++ compact j
  | (key, j) :: rest => quote key ++ ":" ++ compact j ++ "," ++ compactMembers rest

end

def indentation (level : Nat) : String :=
  "\n" ++ String.ofList (List.replicate (2 * level) ' ')

mutual

/-- The value spread over lines, its own level given. Empty containers stay on one line. -/
def prettyAt (level : Nat) : Json → String
  | .array [] => "[]"
  | .array (j :: rest) => "[" ++ prettyItems (level + 1) (j :: rest) ++ indentation level ++ "]"
  | .object [] => "\x7b\x7d"
  | .object (m :: rest) =>
    "\x7b" ++ prettyMembers (level + 1) (m :: rest) ++ indentation level ++ "\x7d"
  | .null => "null"
  | .bool b => if b then "true" else "false"
  | .number n => n.text
  | .string s => quote s

def prettyItems (level : Nat) : List Json → String
  | [] => ""
  | [j] => indentation level ++ prettyAt level j
  | j :: rest => indentation level ++ prettyAt level j ++ "," ++ prettyItems level rest

def prettyMembers (level : Nat) : List (String × Json) → String
  | [] => ""
  | [(key, j)] => indentation level ++ quote key ++ ": " ++ prettyAt level j
  | (key, j) :: rest =>
    indentation level ++ quote key ++ ": " ++ prettyAt level j ++ "," ++ prettyMembers level rest

end

def pretty (j : Json) : String :=
  prettyAt 0 j

end AssetAtlas.Json
