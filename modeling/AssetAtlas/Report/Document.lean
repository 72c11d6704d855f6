import AssetAtlas.Json.Printer
import AssetAtlas.Report.Format

/-!
The report for programs: nodes and edges as JSON, with the pagination, the time and the number of the
request, and the programs that were sent.
-/

namespace AssetAtlas

def PlacedNode.toJson (p : PlacedNode Float) : Json :=
  .object (p.node.members ++
    [("x", .number (.real p.x)), ("y", .number (.real p.y)), ("level", .ofNat p.level)])

namespace Report

def nodeValues (r : Report) : List Json :=
  match r.layout with
  | some placed => placed.map PlacedNode.toJson
  | none => r.snapshot.graph.nodes.map fun n => .object n.members

/-- The report as a value; no warnings are not written. -/
def document (r : Report) : Json :=
  let s := r.snapshot
  .object <|
    [("nodes", .array r.nodeValues),
      ("edges", .array (s.graph.edges.map Edge.toJson)),
      ("pagination", .object
        [("totalCount", .ofNat s.total), ("limit", .ofNat s.limit), ("hasMore", .bool s.hasMore),
          ("moreAvailable", .ofNat s.moreAvailable)]),
      ("fetchedAt", .string s.fetchedAt.zuluText),
      ("generation", .ofNat s.generation),
      ("query", .object [("data", .string s.dataQuery), ("count", .string s.countQuery)])] ++
    if s.warnings.isEmpty then [] else [("warnings", .array (s.warnings.map .string))]

end Report

end AssetAtlas
