import AssetAtlas.Json.Value

/-!
Rows as the store returns them: up to two nodes and a relationship between them. Decoding is lenient.
A column that does not hold what it should is left empty and does not disturb the others.
-/

namespace AssetAtlas

/-- The text of an identifier: a text that is not empty, or a number. -/
def identifier? : Json → Option String
  | .string s => if s.isEmpty then none else some s
  | .number n => some n.text
  | _ => none

def texts? : Json → Option (List String)
  | .array items => items.mapM Json.string?
  | _ => none

structure RawNode where
  id : Json := .null
  labels : List String := []
  properties : Properties := {}

namespace RawNode

/-- Whether the node has a label; the case of ASCII letters does not matter. -/
def hasLabel (n : RawNode) (label : String) : Bool :=
  n.labels.any (Text.sameIgnoringCase · label)

def id? (n : RawNode) : Option String :=
  identifier? n.id

/-- A property as text: a text that is not blank, kept as it is, or the text of a number. -/
def text? (n : RawNode) (key : String) : Option String :=
  match n.properties.find? key with
  | some (.string s) => if (Text.trim s).isEmpty then none else some s
  | some (.number x) => some x.text
  | _ => none

def firstText? (n : RawNode) (keys : List String) : Option String :=
  keys.findSome? n.text?

def columns : List String := ["id", "labels", "properties"]

/-- Reads a node from a record. Every column may be missing, none may be null but the first. -/
def ofJson? (j : Json) : Option RawNode :=
  match j.columns? columns with
  | some [id, labels, properties] => do
    return {
      id := id.getD .null
      labels := ← match labels with
        | some l => texts? l
        | none => some []
      properties := ← match properties with
        | some p => p.properties?
        | none => some {} }
  | _ => none

def toJson (n : RawNode) : Json :=
  .object [("id", n.id), ("labels", .array (n.labels.map .string)),
    ("properties", .ofProperties n.properties)]

/-- Reads a column of a row: an object with a list of labels that is the record of a node. -/
def decode? (j : Json) : Option RawNode :=
  match j.member? "labels" with
  | some (.array _) => ofJson? j
  | _ => none

end RawNode

/-- A relationship as the store returns it. Its endpoints come under either of two pairs of names. -/
structure RawLink where
  id : Json := .null
  kind : String := ""
  start_node : Option Json := none
  end_node : Option Json := none
  startNode : Option Json := none
  endNode : Option Json := none
  properties : Properties := {}

namespace RawLink

def id? (l : RawLink) : Option String :=
  identifier? l.id

/-- The identifiers of a pair of endpoints, if both have one. -/
def pair? (source target : Option Json) : Option (String × String) := do
  return (← identifier? (← source), ← identifier? (← target))

/-- The identifiers of the source and the target: the first pair of names counts if both of its
identifiers can be read, else the second. -/
def endpoints? (l : RawLink) : Option (String × String) :=
  pair? l.start_node l.end_node <|> pair? l.startNode l.endNode

def columns : List String :=
  ["id", "type", "start_node", "end_node", "startNode", "endNode", "properties"]

/-- An endpoint column; null counts as missing. -/
def endpoint : Option Json → Option Json
  | some .null => none
  | j => j

def ofJson? (j : Json) : Option RawLink :=
  match j.columns? columns with
  | some [id, kind, start_node, end_node, startNode, endNode, properties] => do
    return {
      id := id.getD .null
      kind := ← match kind with
        | some k => k.string?
        | none => some ""
      start_node := endpoint start_node
      end_node := endpoint end_node
      startNode := endpoint startNode
      endNode := endpoint endNode
      properties := ← match properties with
        | some p => p.properties?
        | none => some {} }
  | _ => none

/-- A member that is written only when there is a value. -/
def optionalMember (key : String) : Option Json → List (String × Json)
  | some j => [(key, j)]
  | none => []

def toJson (l : RawLink) : Json :=
  .object <|
    [("id", l.id), ("type", .string l.kind)] ++ optionalMember "start_node" l.start_node ++
      optionalMember "end_node" l.end_node ++ optionalMember "startNode" l.startNode ++
      optionalMember "endNode" l.endNode ++ [("properties", .ofProperties l.properties)]

/-- Reads a column of a row: an object with a textual type that is the record of a relationship. -/
def decode? (j : Json) : Option RawLink :=
  match j.member? "type" with
  | some (.string _) => ofJson? j
  | _ => none

end RawLink

structure Row where
  n : Option RawNode := none
  r : Option RawLink := none
  m : Option RawNode := none

namespace Row

def ofNode (n : RawNode) : Row := { n := some n }

def ofTriple (n : RawNode) (r : RawLink) (m : RawNode) : Row := ⟨some n, some r, some m⟩

/-- Decodes the members of a row, each for itself. -/
def ofProperties (row : Properties) : Row where
  n := (row.find? "n").bind RawNode.decode?
  r := (row.find? "r").bind RawLink.decode?
  m := (row.find? "m").bind RawNode.decode?

/-- Decodes the objects of a list of values; what is no object is no row. -/
def ofValues (values : List Json) : List Row :=
  (values.filterMap Json.properties?).map ofProperties

/-- The columns of a row, null where it is empty. -/
def toProperties (row : Row) : Properties :=
  .ofList
    [("n", (row.n.map RawNode.toJson).getD .null), ("r", (row.r.map RawLink.toJson).getD .null),
      ("m", (row.m.map RawNode.toJson).getD .null)]

end Row

end AssetAtlas
