/-!
Blank characters and trimming. Every text that reaches the program from outside (filters, tokens,
names, counts) is compared with "blank" in this one sense: it has only characters of the Unicode
property `White_Space`.
-/

namespace AssetAtlas.Text

/-- The characters with the property `White_Space`. Zero-width space, word joiner and byte order
mark do not have it. -/
def isBlank (c : Char) : Bool :=
  let n := c.toNat
  (9 ≤ n && n ≤ 13) || n == 0x20 || n == 0x85 || n == 0xA0 || n == 0x1680 ||
    (0x2000 ≤ n && n ≤ 0x200A) || n == 0x2028 || n == 0x2029 || n == 0x202F || n == 0x205F ||
    n == 0x3000

def trimChars (cs : List Char) : List Char :=
  ((cs.dropWhile isBlank).reverse.dropWhile isBlank).reverse

/-- The text without the blank characters at both ends. -/
def trim (s : String) : String :=
  String.ofList (trimChars s.toList)

/-- The trimmed text, or nothing when only blank characters were there. -/
def nonBlank? (s : String) : Option String :=
  let t := trim s
  if t.isEmpty then none else some t

/-- Lower case on the twenty-six ASCII letters only. -/
def asciiLower (s : String) : String :=
  String.ofList (s.toList.map Char.toLower)

/-- Equality up to the case of ASCII letters. -/
def sameIgnoringCase (a b : String) : Bool :=
  asciiLower a == asciiLower b

/-- Whether the characters of `part` stand next to each other somewhere in the text. -/
def occursIn (part : List Char) : List Char → Bool
  | [] => part.isEmpty
  | c :: rest => part.isPrefixOf (c :: rest) || occursIn part rest

def contains (s part : String) : Bool :=
  occursIn part.toList s.toList

def beginsWith (s start : String) : Bool :=
  start.toList.isPrefixOf s.toList

def finishesWith (s tail : String) : Bool :=
  tail.toList.isSuffixOf s.toList

def replaceChar (c : Char) (replacement : List Char) (s : String) : String :=
  String.ofList (s.toList.flatMap fun d => if d = c then replacement else [d])

end AssetAtlas.Text
