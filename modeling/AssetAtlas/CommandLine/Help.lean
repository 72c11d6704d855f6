import AssetAtlas.CommandLine.Arguments
import AssetAtlas.Identity

/-!
What the program says about itself and about command lines that make no sense.
-/

namespace AssetAtlas

def optionTable : List (String × String) :=
  [("    --endpoint <URL>", "Graph store query endpoint (http:// or https://)"),
    ("    --token <TOKEN>", "Bearer token sent with every query"),
    ("-c, --config <FILE>",
      "Path to a config file (defaults to ./asset-graph.config.yml when present)"),
    ("    --criteria <FILE>", "YAML or JSON file holding a list of filter criteria"),
    ("    --source <TYPE>", "Source node type, or any_resource"),
    ("    --relationship <TYPE>", "Relationship type, or any_relationship"),
    ("    --target <TYPE>", "Target node type, or any_resource"),
    ("    --severity <SEVERITY>", "Only vulnerabilities of this severity (e.g. critical)"),
    ("    --package <NAME>", "Only vulnerabilities affecting this package"),
    ("    --cve <CVE_ID>", "Only this CVE identifier"),
    ("    --single", "Fetch nodes of the source type only, without relationships"),
    ("    --bidirectional", "Follow the relationship in both directions"),
    ("    --full-graph", "Follow paths of up to 10 hops between source and target"),
    ("    --internet", "Add the synthetic Internet node for publicly exposed assets"),
    ("    --pages <N>", "Number of \"load more\" cycles after the first page [default: 0]"),
    ("    --layout", "Include x/y grid positions and BFS levels in the JSON output"),
    ("    --viewport-width <PIXELS>", "Viewport width in pixels used by --layout"),
    ("-f, --format <FORMAT>", "Output format: json or markdown [possible values: json, markdown]"),
    ("-o, --output <FILE>", "Output file path (if not specified, outputs to stdout)"),
    ("    --print-query",
      "Print the compiled data and count programs without contacting the store"),
    ("-h, --help", "Print help"),
    ("-V, --version", "Print version")]

/-- A line of the table, its second column under those of the others. -/
def tableLine (row : String × String) : String :=
  let width := (optionTable.map (·.1.length)).foldl max 0
  "  " ++ row.1.pushn ' ' (width + 2 - row.1.length) ++ row.2 ++ "\n"

def usage : String :=
  s!"Usage: {programName} [OPTIONS]\n"

def helpText : String :=
  "Compile asset-graph filter criteria to Cypher, fetch the subgraph and emit a canonical graph model\n\n"
    ++ usage ++ "\nOptions:\n" ++ String.join (optionTable.map tableLine)

def versionText : String :=
  s!"{programName} {programVersion}\n"

def refusalText (reason : String) : String :=
  s!"error: {reason}\n\n{usage}\nFor more information, try '--help'.\n"

end AssetAtlas
