import AssetAtlas.Graph.Layout
import AssetAtlas.Loading.Snapshot

/-!
Reports: a snapshot, with positions for its nodes if they were asked for, in one of two formats.
-/

namespace AssetAtlas

structure Report where
  snapshot : Snapshot
  layout : Option (List (PlacedNode Float)) := none

def Report.withLayout (r : Report) (grid : Grid Float) (viewport : Float) : Report :=
  { r with layout := some (r.snapshot.graph.layout grid viewport) }

inductive ReportFormat where
  | json
  | markdown
deriving DecidableEq, Repr, Inhabited

namespace ReportFormat

def standard : ReportFormat := .json

def name : ReportFormat → String
  | .json => "json"
  | .markdown => "markdown"

def ofName? : String → Option ReportFormat
  | "json" => some .json
  | "markdown" | "md" => some .markdown
  | _ => none

/-- The format of a name in which the case of ASCII letters does not matter. -/
def ofNameIgnoringCase? (s : String) : Option ReportFormat :=
  ofName? (Text.asciiLower s)

def progressText : ReportFormat → String
  | .json => "📝 Rendering graph as JSON..."
  | .markdown => "📝 Rendering Markdown summary..."

end ReportFormat

end AssetAtlas
