import AssetAtlas.Classification.Basic
import AssetAtlas.Graph.Model

/-!
From rows to a graph. Rows are taken one after the other. Each node is found by its identifier: the
first row that has it decides what it is, and later rows refresh its properties, though a
placeholder never replaces anything. A relationship becomes an edge once both of its nodes are
known. What is left out leaves an issue behind, except for a relationship whose name is in use.

There is no table of the identifiers beside the graph: whether a node is known and whether the name of
an edge is in use is read off the lists of nodes and edges.
-/

namespace AssetAtlas

inductive RowDefect where
  /-- Neither node column holds a node. -/
  | withoutNodes
  | withoutId
  | withoutEndpoints (kind : String)
  /-- A relationship ends at a node that is not in the result. -/
  | unknownEndpoint (kind source target : String)
deriving DecidableEq, Repr

def RowDefect.reason (row : Nat) : RowDefect → String
  | .withoutNodes => s!"row {row} has neither an n nor an m column"
  | .withoutId => s!"row {row} contains a node without an id"
  | .withoutEndpoints kind =>
    s!"row {row}: relationship '{kind}' has no start_node/end_node or startNode/endNode"
  | .unknownEndpoint kind source target =>
    s!"row {row}: relationship '{kind}' references a node outside the result ({source} -> {target})"

/-- Something in a result that could not be used. -/
inductive Issue where
  | row (index : Nat) (defect : RowDefect)
  | property (issue : PropertyIssue)

def Issue.fault : Issue → Fault
  | .row index defect => .rowSkipped (defect.reason index)
  | .property issue => issue.fault

structure Assembly where
  graph : Graph := {}
  /-- How many edges were named by number so far. -/
  generated : Nat := 0
  issues : List Issue := []

namespace Assembly

def report (a : Assembly) (issue : Issue) : Assembly :=
  { a with issues := a.issues ++ [issue] }

/-- Takes the properties of another observation of a node: observed values replace, placeholders only
fill what is missing. -/
def refresh (p : Properties) (c : Classification) : Properties :=
  c.properties.entries.foldl (fun p e =>
    if c.placeholders.contains e.1 && p.contains e.1 then p else p.insert e.1 e.2) p

def firstObservation (id : String) (labels : List String) (c : Classification) : Node :=
  { id, label := c.label, kind := c.kind, rawLabel := c.rawLabel, labels
    properties := c.properties }

def observe (nodes : List Node) (id : String) (labels : List String) (c : Classification) :
    List Node :=
  match nodes with
  | [] => [firstObservation id labels c]
  | n :: rest =>
    if n.id == id then { n with properties := refresh n.properties c } :: rest
    else n :: observe rest id labels c

def addNode (row : Nat) (a : Assembly) (n : RawNode) : Assembly :=
  match n.id? with
  | none => a.report (.row row .withoutId)
  | some id =>
    let c := n.classify
    { a with
      graph := { a.graph with nodes := observe a.graph.nodes id n.labels c }
      issues := a.issues ++ c.issues.map .property }

/-- Appends an edge unless there is one of its name. -/
def addEdge (g : Graph) (e : Edge) : Graph :=
  if g.edges.any (·.id == e.id) then g else { g with edges := g.edges ++ [e] }

/-- Takes the relationship of a row. One without an identifier is named by number. -/
def addLink (row : Nat) (a : Assembly) (l : RawLink) : Assembly :=
  match l.endpoints? with
  | none => a.report (.row row (.withoutEndpoints l.kind))
  | some (source, target) =>
    if a.graph.hasNode source && a.graph.hasNode target then
      let edge (id : String) : Edge :=
        { Edge.plain id source target l.kind with properties := l.properties }
      match l.id? with
      | some id => { a with graph := addEdge a.graph (edge id) }
      | none =>
        { a with
          graph := addEdge a.graph (edge s!"edge-{a.generated + 1}")
          generated := a.generated + 1 }
    else a.report (.row row (.unknownEndpoint l.kind source target))

/-- Takes a row: its nodes, then its relationship. -/
def addRow (a : Assembly) (row : Row × Nat) : Assembly :=
  let (⟨n, r, m⟩, index) := row
  if n.isNone && m.isNone then a.report (.row index .withoutNodes)
  else
    let withNodes := (n.toList ++ m.toList).foldl (addNode index) a
    r.toList.foldl (addLink index) withNodes

def ofRows (rows : List Row) : Assembly :=
  rows.zipIdx.foldl addRow {}

end Assembly

/-- The graph of a result, and what could not be used. -/
def normalize (rows : List Row) : Graph × List Issue :=
  let a := Assembly.ofRows rows
  (a.graph, a.issues)

end AssetAtlas
