import AssetAtlas.Classification.Basic
import AssetAtlas.Exposure.Internet
import AssetAtlas.Report.Document

/-!
The report for people: a Markdown text with an overview, the numbers of nodes and relationships by
type, the vulnerabilities by severity, the assets that are open to the internet, and what was left
out. A section without content is not written.
-/

namespace AssetAtlas.Summary

/-- Lines, each with its end. -/
def lines (ls : List String) : String :=
  String.join (ls.map (· ++ "\n"))

/-- A text that can stand in a cell: a bar is marked as part of the text, and a line feed becomes a
space. -/
def escapeCell (s : String) : String :=
  Text.replaceChar '\n' [' '] (Text.replaceChar '|' ['\\', '|'] s)

/-- A line of a table, from cells that are ready to stand in it. -/
def tableRow (cells : List String) : String :=
  "| " ++ String.intercalate " | " cells ++ " |"

/-- The lines of a section: a heading, what stands above its rows, and the rows. Without rows there
is no section. -/
def headed (title : String) (above rows : List String) : List String :=
  if rows.isEmpty then [] else ["## " ++ title, ""] ++ above ++ rows ++ [""]

/-- A table with the texts that its rows show. -/
structure Table where
  title : String
  header : List String
  /-- The line between the header and the rows. -/
  rule : String
  rows : List (List String)

namespace Table

def rowLines (t : Table) : List String :=
  t.rows.map fun texts => tableRow (texts.map escapeCell)

def sectionLines (t : Table) : List String :=
  headed t.title [tableRow t.header, t.rule] t.rowLines

def written (t : Table) : String :=
  lines t.sectionLines

end Table

def overviewLines (s : Snapshot) : List String :=
  ["# Asset Graph Summary", "",
    s!"Fetched at {s.fetchedAt.offsetText} (request #{s.generation})", "",
    "| Metric | Value |", "|--------|-------|",
    tableRow ["Nodes", toString s.graph.nodes.length],
    tableRow ["Edges", toString s.graph.edges.length],
    tableRow ["Total matches", toString s.total],
    tableRow ["Limit", toString s.limit]] ++
    (if s.hasMore then
      ["",
        s!"{s.moreAvailable} more result(s) available; rerun with a higher --pages to load them."]
    else []) ++
    [""]

def overview (s : Snapshot) : String :=
  lines (overviewLines s)

/-- How often each of some names occurs, by name. -/
def tally (names : List String) : Dictionary Nat :=
  names.foldl (fun d name => d.insert name ((d.find? name).getD 0 + 1)) {}

def countTable (title column : String) (names : List String) : Table where
  title
  header := [column, "Count"]
  rule := "|------|-------|"
  rows := (tally names).entries.map fun e => [e.1, toString e.2]

def countSection (title column : String) (names : List String) : String :=
  (countTable title column names).written

/-- A property as it is shown: a text as it is, a dash for anything else. -/
def shown (n : Node) (key : String) : String :=
  ((n.properties.find? key).bind Json.string?).getD "-"

/-- The place of a severity in the order of the table; unknown ones come last. -/
def severityRank (severity : String) : Nat :=
  severities.idxOf severity

/-- The vulnerabilities of a graph, the most severe first and otherwise in their order. -/
def rankedVulnerabilities (g : Graph) : List Node :=
  let found := g.nodes.filter (·.kind == Query.VulnerabilityKind.scanned.label)
  (List.range (severities.length + 1)).flatMap fun rank =>
    found.filter fun n => severityRank (shown n "severity") = rank

def isFlagged (n : Node) : Bool :=
  match n.properties.find? "kev" with
  | some (.bool b) => b
  | _ => false

def vulnerabilityTexts (n : Node) : List String :=
  [n.label, shown n "severity", shown n "package_name", shown n "package_version",
    shown n "fixed_version", if isFlagged n then "⚠️ yes" else "no"]

def vulnerabilityHeader : List String :=
  ["CVE", "Severity", "Package", "Version", "Fixed Version", "KEV"]

def vulnerabilityTable (listed : List Node) : Table where
  title := "Vulnerabilities"
  header := vulnerabilityHeader
  rule := "|-----|----------|---------|---------|---------------|-----|"
  rows := listed.map vulnerabilityTexts

def vulnerabilitySection (g : Graph) : String :=
  (vulnerabilityTable (rankedVulnerabilities g)).written

/-- The nodes at the ends of the edges from the internet, in the order of these edges. -/
def exposedNodes (g : Graph) : List Node :=
  (g.edges.filter fun e => e.source == Internet.nodeId && e.kind == Internet.edgeKind).filterMap
    fun e => g.node? e.target

def exposureEntry (n : Node) : String :=
  s!"- **{escapeCell n.label}** (\x60{n.kind}\x60)"

def exposureSection (g : Graph) : String :=
  lines (headed "Internet Exposure" [] ((exposedNodes g).map exposureEntry))

def skippedSection (warnings : List String) : String :=
  lines (headed "Skipped Data" []
    (warnings.map fun w => "- " ++ Text.replaceChar '\n' [' '] w))

def text (s : Snapshot) : String :=
  overview s ++
    countSection "Node Types" "Type" (s.graph.nodes.map (·.kind)) ++
    countSection "Relationships" "Relationship" (s.graph.edges.map (·.kind)) ++
    vulnerabilitySection s.graph ++ exposureSection s.graph ++ skippedSection s.warnings

end AssetAtlas.Summary

namespace AssetAtlas.Report

def text (r : Report) : ReportFormat → String
  | .json => r.document.pretty
  | .markdown => Summary.text r.snapshot

end AssetAtlas.Report
