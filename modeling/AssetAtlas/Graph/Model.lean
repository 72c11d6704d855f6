import AssetAtlas.Json.Value

/-!
The graph that is shown: classified nodes, one per identifier, and edges between them.
-/

namespace AssetAtlas

structure Node where
  id : String
  label : String
  kind : String
  /-- The first label of the store. -/
  rawLabel : String
  labels : List String := []
  properties : Properties

structure Edge where
  id : String
  source : String
  target : String
  kind : String
  label : String
  properties : Properties

/-- Nodes and edges, in the order in which they were found. -/
structure Graph where
  nodes : List Node := []
  edges : List Edge := []

/-- The texts of the columns of a record, all of them present. -/
def requiredTexts? (columns : List (Option Json)) : Option (List String) :=
  columns.mapM fun c => c.bind Json.string?

/-- The labels in a column; a missing column holds none. -/
def labelColumn? : Option Json → Option (List String)
  | some (.array items) => items.mapM Json.string?
  | some _ => none
  | none => some []

namespace Node

/-- Whether the node has a label; a node that kept no labels has the first label of the store. The
case of ASCII letters does not matter. -/
def hasLabel (n : Node) (label : String) : Bool :=
  if n.labels.isEmpty then Text.sameIgnoringCase n.rawLabel label
  else n.labels.any (Text.sameIgnoringCase · label)

def columns : List String := ["id", "label", "type", "rawLabel", "labels", "properties"]

/-- Reads a node from a record. Only the labels may be missing. -/
def ofJson? (j : Json) : Option Node :=
  match j.columns? columns with
  | some [id, label, kind, rawLabel, labels, properties] => do
    match ← requiredTexts? [id, label, kind, rawLabel] with
    | [id, label, kind, rawLabel] =>
      return { id, label, kind, rawLabel
               labels := ← labelColumn? labels
               properties := ← (← properties).properties? }
    | _ => none
  | _ => none

/-- The members of the record of a node; no labels are not written. -/
def members (n : Node) : List (String × Json) :=
  [("id", .string n.id), ("label", .string n.label), ("type", .string n.kind),
    ("rawLabel", .string n.rawLabel)] ++
    (if n.labels.isEmpty then [] else [("labels", .array (n.labels.map .string))]) ++
    [("properties", .ofProperties n.properties)]

end Node

namespace Edge

/-- An edge whose label is its type and which has no properties. -/
def plain (id source target kind : String) : Edge :=
  { id, source, target, kind, label := kind, properties := {} }

def columns : List String := ["id", "source", "target", "type", "label", "properties"]

/-- Reads an edge from a record without missing columns. -/
def ofJson? (j : Json) : Option Edge :=
  match j.columns? columns with
  | some [id, source, target, kind, label, properties] => do
    match ← requiredTexts? [id, source, target, kind, label] with
    | [id, source, target, kind, label] =>
      return { id, source, target, kind, label, properties := ← (← properties).properties? }
    | _ => none
  | _ => none

def toJson (e : Edge) : Json :=
  .object
    [("id", .string e.id), ("source", .string e.source), ("target", .string e.target),
      ("type", .string e.kind), ("label", .string e.label),
      ("properties", .ofProperties e.properties)]

end Edge

namespace Graph

def node? (g : Graph) (id : String) : Option Node :=
  g.nodes.find? (·.id == id)

def hasNode (g : Graph) (id : String) : Bool :=
  g.nodes.any (·.id == id)

def danglingEdges (g : Graph) : List Edge :=
  g.edges.filter fun e => !(g.hasNode e.source && g.hasNode e.target)

def ofJson? (j : Json) : Option Graph :=
  match j.columns? ["nodes", "edges"] with
  | some [some (.array nodes), some (.array edges)] => do
    return { nodes := ← nodes.mapM Node.ofJson?, edges := ← edges.mapM Edge.ofJson? }
  | _ => none

end Graph

end AssetAtlas
