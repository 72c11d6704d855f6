import AssetAtlas.Query.Token
import AssetAtlas.Text.Blank

/-!
Programs as text, clause by clause. Names and texts come from outside and may hold anything: a name
that is no plain word stands between back quotes, and a text between single quotes.
-/

namespace AssetAtlas.Query

/-- A label, a relationship type or a property name. A back quote inside back quotes is written
twice. -/
def nameText (s : String) : String :=
  if isWord s then s
  else "\x60" ++ Text.replaceChar '\x60' ['\x60', '\x60'] s ++ "\x60"

def labelText : Option String → String
  | some label => ":" ++ nameText label
  | none => ""

/-- Backslashes are escaped before single quotes, so that those in front of quotes stay single. -/
def Literal.written : Literal → String
  | .text s =>
    let escaped := Text.replaceChar '\x27' ['\\', '\x27'] (Text.replaceChar '\\' ['\\', '\\'] s)
    "\x27" ++ escaped ++ "\x27"
  | .bool b => toString b

def NodePattern.text (n : NodePattern) : String :=
  "(" ++ n.var ++ labelText n.label ++ ")"

/-- The least and the greatest number of relationships in a row, behind a star. -/
def hopsText : Option (Nat × Nat) → String
  | some (least, most) => "*" ++ toString least ++ ".." ++ toString most
  | none => ""

def LinkPattern.text (l : LinkPattern) : String :=
  "-[" ++ l.var.getD "" ++ labelText l.kind ++ hopsText l.hops ++ "]->"

def Pattern.text : Pattern → String
  | .node n => n.text
  | .link source l target => source.text ++ l.text ++ target.text
  | .path var source l target => var ++ " = " ++ source.text ++ l.text ++ target.text

def Match.text (m : Match) : String :=
  (if m.isOptional then "OPTIONAL " else "") ++ "MATCH " ++ m.pattern.text

namespace Predicate

mutual

def text : Predicate → String
  | .hasLabel var label => var ++ ":" ++ nameText label
  | .equal var property value => var ++ "." ++ nameText property ++ " = " ++ value.written
  | .unequal var property value => var ++ "." ++ nameText property ++ " <> " ++ value.written
  | .isPresent var property => var ++ "." ++ nameText property ++ " IS NOT NULL"
  | .and members => joinedText " AND " members
  | .or members => joinedText " OR " members

/-- The text of a member; one that joins others stands in parentheses. -/
def memberText (p : Predicate) : String :=
  match p with
  | .and members => "(" ++ joinedText " AND " members ++ ")"
  | .or members => "(" ++ joinedText " OR " members ++ ")"
  | p => text p

def joinedText (separator : String) : List Predicate → String
  | [] => ""
  | [p] => memberText p
  | p :: rest => memberText p ++ separator ++ joinedText separator rest

end

end Predicate

def Term.text : Term → String
  | .var name => name
  | .null => "null"
  | .startOf link => "startNode(" ++ link ++ ")"
  | .endOf link => "endNode(" ++ link ++ ")"

/-- A column under a name; a variable of the same name needs no alias. -/
def columnText (t : Term) (name : String) : String :=
  if t = .var name then name else t.text ++ " AS " ++ name

def Columns.text : Columns → String
  | .triple n r m =>
    "RETURN " ++ columnText n "n" ++ ", " ++ columnText r "r" ++ ", " ++ columnText m "m"
  | .count t => "RETURN count(" ++ t.text ++ ") AS count"

def Unwinding.text (u : Unwinding) : String :=
  "UNWIND relationships(" ++ u.path ++ ") AS " ++ u.var

def conditionText : Option Predicate → String
  | some p => "WHERE " ++ p.text ++ " "
  | none => ""

def unwindingText : Option Unwinding → String
  | some u => u.text ++ " "
  | none => ""

def Branch.text (b : Branch) : String :=
  String.join (b.patterns.map fun m => m.text ++ " ") ++ conditionText b.condition ++
    unwindingText b.unwinding ++ b.columns.text

def Union.text : Union → String
  | .distinct => " UNION "
  | .all => " UNION ALL "

/-- The text of a program. A limit behind a bare union would only cap the last branch, so the union
of several branches is wrapped first. -/
def Program.text (p : Program) : String :=
  let union := String.intercalate p.union.text (p.branches.map Branch.text)
  match p.limit with
  | none => union
  | some limit =>
    (if 1 < p.branches.length then "CALL \x7b " ++ union ++ " \x7d RETURN n, r, m" else union) ++
      " LIMIT " ++ toString limit

end AssetAtlas.Query
