import AssetAtlas.Query.Program

/-!
The tokens of a program: words, quoted names, quoted texts, numbers, marks and blanks, in the order in
which the tree says them. A token keeps a name or a text as it is, whatever it holds; how it is quoted
where it is written is decided by `Token.written`.
-/

namespace AssetAtlas.Query

inductive Token where
  /-- A keyword, a variable, or a name that needs no quotes. -/
  | word (s : String)
  /-- A name between back quotes. -/
  | quotedName (s : String)
  /-- A text between single quotes. -/
  | text (s : String)
  | number (n : Nat)
  | mark (c : Char)
  | blank
deriving DecidableEq, Repr

def beginsWord (c : Char) : Bool :=
  c.isAlpha || c == '_'

def continuesWord (c : Char) : Bool :=
  c.isAlphanum || c == '_'

def isWord (s : String) : Bool :=
  match s.toList with
  | [] => false
  | c :: rest => beginsWord c && rest.all continuesWord

namespace Token

/-- The token of a label, a relationship type or a property name. -/
def ofName (s : String) : Token :=
  if isWord s then .word s else .quotedName s

/-- A back quote inside a quoted name is written twice. -/
def nameChar (c : Char) : List Char :=
  if c = '\x60' then ['\x60', '\x60'] else [c]

/-- A backslash and a single quote inside a quoted text have a backslash in front. -/
def textChar (c : Char) : List Char :=
  if c = '\\' then ['\\', '\\'] else if c = '\x27' then ['\\', '\x27'] else [c]

def written : Token → List Char
  | .word s => s.toList
  | .quotedName s => '\x60' :: s.toList.flatMap nameChar ++ ['\x60']
  | .text s => '\x27' :: s.toList.flatMap textChar ++ ['\x27']
  | .number n => Nat.toDigits 10 n
  | .mark c => [c]
  | .blank => [' ']

def join (tokens : List Token) : String :=
  String.ofList (tokens.flatMap written)

end Token

open Token

def labelTokens : Option String → List Token
  | some label => [.mark ':', ofName label]
  | none => []

def Literal.tokens : Literal → List Token
  | .text s => [.text s]
  | .bool b => [.word (if b then "true" else "false")]

def NodePattern.tokens (n : NodePattern) : List Token :=
  [.mark '(', .word n.var] ++ labelTokens n.label ++ [.mark ')']

/-- A variable, which may be left out. -/
def variableTokens : Option String → List Token
  | some var => [.word var]
  | none => []

/-- The least and the greatest number of relationships in a row, behind a star. -/
def hopsTokens : Option (Nat × Nat) → List Token
  | some (least, most) => [.mark '*', .number least, .mark '.', .mark '.', .number most]
  | none => []

def LinkPattern.tokens (l : LinkPattern) : List Token :=
  [.mark '-', .mark '['] ++ variableTokens l.var ++ labelTokens l.kind ++ hopsTokens l.hops ++
    [.mark ']', .mark '-', .mark '>']

def Pattern.tokens : Pattern → List Token
  | .node n => n.tokens
  | .link source l target => source.tokens ++ l.tokens ++ target.tokens
  | .path var source l target =>
    [.word var, .blank, .mark '=', .blank] ++ source.tokens ++ l.tokens ++ target.tokens

def Match.tokens (m : Match) : List Token :=
  (if m.isOptional then [.word "OPTIONAL", .blank] else []) ++
    [.word "MATCH", .blank] ++ m.pattern.tokens

def propertyTokens (var property : String) : List Token :=
  [.word var, .mark '.', ofName property]

namespace Predicate

def isCompound : Predicate → Bool
  | .and _ | .or _ => true
  | _ => false

mutual

def tokens : Predicate → List Token
  | .hasLabel var label => [.word var, .mark ':', ofName label]
  | .equal var property value =>
    propertyTokens var property ++ [.blank, .mark '=', .blank] ++ value.tokens
  | .unequal var property value =>
    propertyTokens var property ++ [.blank, .mark '<', .mark '>', .blank] ++ value.tokens
  | .isPresent var property =>
    propertyTokens var property ++
      [.blank, .word "IS", .blank, .word "NOT", .blank, .word "NULL"]
  | .and members => joined "AND" members
  | .or members => joined "OR" members

/-- The tokens of a member; one that joins others stands in parentheses. -/
def memberTokens (p : Predicate) : List Token :=
  match p with
  | .and members => [.mark '('] ++ joined "AND" members ++ [.mark ')']
  | .or members => [.mark '('] ++ joined "OR" members ++ [.mark ')']
  | p => tokens p

def joined (word : String) : List Predicate → List Token
  | [] => []
  | [p] => memberTokens p
  | p :: rest => memberTokens p ++ [.blank, .word word, .blank] ++ joined word rest

end

end Predicate

def Term.tokens : Term → List Token
  | .var name => [.word name]
  | .null => [.word "null"]
  | .startOf link => [.word "startNode", .mark '(', .word link, .mark ')']
  | .endOf link => [.word "endNode", .mark '(', .word link, .mark ')']

/-- The tokens of a column; a variable of the column's own name needs no alias. -/
def columnTokens (t : Term) (name : String) : List Token :=
  if t = .var name then [.word name]
  else t.tokens ++ [.blank, .word "AS", .blank, .word name]

def Columns.tokens : Columns → List Token
  | .triple n r m =>
    [.word "RETURN", .blank] ++ columnTokens n "n" ++ [.mark ',', .blank] ++ columnTokens r "r" ++
      [.mark ',', .blank] ++ columnTokens m "m"
  | .count t =>
    [.word "RETURN", .blank, .word "count", .mark '('] ++ t.tokens ++
      [.mark ')', .blank, .word "AS", .blank, .word "count"]

def Unwinding.tokens (u : Unwinding) : List Token :=
  [.word "UNWIND", .blank, .word "relationships", .mark '(', .word u.path, .mark ')', .blank,
    .word "AS", .blank, .word u.var]

def conditionTokens : Option Predicate → List Token
  | some p => [.word "WHERE", .blank] ++ p.tokens ++ [.blank]
  | none => []

def unwindingTokens : Option Unwinding → List Token
  | some u => u.tokens ++ [.blank]
  | none => []

def Branch.tokens (b : Branch) : List Token :=
  (b.patterns.flatMap fun m => m.tokens ++ [.blank]) ++ conditionTokens b.condition ++
    unwindingTokens b.unwinding ++ b.columns.tokens

def Union.tokens : Union → List Token
  | .distinct => [.blank, .word "UNION", .blank]
  | .all => [.blank, .word "UNION", .blank, .word "ALL", .blank]

namespace Program

def branchTokens (u : Union) : List Branch → List Token
  | [] => []
  | [b] => b.tokens
  | b :: rest => b.tokens ++ u.tokens ++ branchTokens u rest

/-- The tokens of a program. A limit behind a bare union would only cap the last branch, so the
union of several branches is wrapped first. -/
def tokens (p : Program) : List Token :=
  let union := branchTokens p.union p.branches
  match p.limit with
  | none => union
  | some limit =>
    (if 1 < p.branches.length then
      [.word "CALL", .blank, .mark '\x7b', .blank] ++ union ++
        [.blank, .mark '\x7d', .blank] ++ Columns.plain.tokens
    else union) ++
      [.blank, .word "LIMIT", .blank, .number limit]

end Program

end AssetAtlas.Query
