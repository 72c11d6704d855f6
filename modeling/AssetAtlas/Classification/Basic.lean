import AssetAtlas.Classification.Rule
import AssetAtlas.Count
import AssetAtlas.Json.Draft
import AssetAtlas.Text.Casing

/-!
Classification: from a node of the store to what is shown of it. A rule chooses a type and a label
and writes some properties. What it writes was either derived from the node or is a placeholder for
what the node does not say; the difference matters when several rows describe the same node.
-/

namespace AssetAtlas

inductive PropertyDefect where
  /-- A text that does not encode an object of counts. -/
  | notCounts
  /-- A text that begins like a list but encodes none. -/
  | notListText (fault : JsonFault)
  /-- A truth value, a number or an object in place of a list. -/
  | notList (value : Json)

namespace PropertyDefect

def kindName : Json → String
  | .null => "null"
  | .bool _ => "a boolean"
  | .number _ => "a number"
  | .string _ => "a string"
  | .array _ => "an array"
  | .object _ => "an object"

def reason : PropertyDefect → String
  | .notCounts => "expected a severity count map"
  | .notListText fault => "invalid JSON list: " ++ fault.message
  | .notList value => "expected a list, found " ++ kindName value

end PropertyDefect

structure PropertyIssue where
  node : String
  property : String
  defect : PropertyDefect

def PropertyIssue.fault (i : PropertyIssue) : Fault :=
  .undecodable i.node i.property i.defect.reason

/-- A property that a rule writes. -/
structure Finding where
  key : String
  value : Json
  /-- Whether the value comes from the node and not from a default. -/
  observed : Bool

namespace Finding

def derived (key : String) (value : Json) : Finding := ⟨key, value, true⟩

/-- A value that stands in for what the node does not say. -/
def placeholder (key : String) (value : Json) : Finding := ⟨key, value, false⟩

end Finding

/-- What a rule makes of a node. -/
structure Verdict where
  kind : String
  label : String
  findings : List Finding := []
  issues : List PropertyIssue := []

structure Classification where
  rule : NodeRule
  kind : String
  label : String
  rawLabel : String
  properties : Properties
  /-- The keys whose values are placeholders, in the order in which they were written. -/
  placeholders : List String
  issues : List PropertyIssue

/-! ## Reading a node -/

namespace RawNode

def rawLabel (n : RawNode) : String :=
  n.labels.head?.getD "unknown"

def fallbackName (n : RawNode) : String :=
  n.id?.getD n.rawLabel

/-- The last part of a resource name that is divided by slashes and colons. -/
def lastSegment (s : String) : String :=
  String.ofList (s.toList.reverse.takeWhile fun c => c ≠ '/' && c ≠ ':').reverse

/-- The best name of a resource among its identifying properties. Of a qualified resource name only
the last part is used, and nothing if that is empty. -/
def displayName? (n : RawNode) : Option String :=
  ["name", "bucket_name", "instance_id", "arn", "vpc_id"].findSome? fun key =>
    (n.text? key).bind fun s =>
      if key = "arn" then
        let tail := lastSegment s
        if tail.isEmpty then none else some tail
      else some s

def count? (n : RawNode) (key : String) : Option UInt64 :=
  (n.properties.find? key).bind Json.count?

end RawNode

/-! ## Counts by severity -/

def severities : List String := ["critical", "high", "medium", "low"]

/-- The count of a severity under its own key: what the map says or zero, if there is a map, else
what the node says. -/
def severityCount? (n : RawNode) (suffix : String) (counts : Option Properties)
    (severity : String) : Option UInt64 :=
  match counts with
  | some map => some (((map.find? severity).bind Json.count?).getD 0)
  | none => n.count? (severity ++ "_" ++ suffix)

/-- The property that holds the count of a severity; a count that is not known is a zero. -/
def countFinding (n : RawNode) (suffix : String) (counts : Option Properties)
    (severity : String) : Finding :=
  let key := severity ++ "_" ++ suffix
  match severityCount? n suffix counts severity with
  | some count => .derived key (.number (.natural count))
  | none => .placeholder key (.number (.natural 0))

def countFindings (n : RawNode) (suffix : String) (counts : Option Properties) : List Finding :=
  severities.map (countFinding n suffix counts)

/-- The total of the counts that are known. It is as real as the counts behind it: when none of them
is known, it is a placeholder as well. -/
def totalFinding (n : RawNode) (suffix : String) (counts : Option Properties) : Finding :=
  let known := severities.filterMap (severityCount? n suffix counts)
  let key := "total_" ++ suffix
  let total := Json.number (.natural (saturatingSum known))
  if known.isEmpty then .placeholder key total else .derived key total

/-! ## Encoded properties -/

/-- The items of a list property: an array, a text that encodes one, or a single text. -/
def decodeList : Option Json → Except PropertyDefect (List Json)
  | none | some .null => .ok []
  | some (.array items) => .ok items
  | some (.string s) =>
    let t := Text.trim s
    if t.isEmpty then .ok []
    else if Text.beginsWith t "[" then
      match Json.ofText t with
      | .ok (.array items) => .ok items
      | .ok _ => .error (.notListText (.malformed 1 1))
      | .error fault => .error (.notListText fault)
    else .ok [.string t]
  | some value => .error (.notList value)

def isGiven : Option Json → Bool
  | none | some .null => false
  | some _ => true

/-- A list property as a list; it is a placeholder when nothing was given or it does not decode. -/
def listFinding (n : RawNode) (key : String) : Finding × List PropertyIssue :=
  let given := n.properties.find? key
  match decodeList given with
  | .ok items => (⟨key, .array items, isGiven given⟩, [])
  | .error defect => (.placeholder key (.array []), [⟨n.fallbackName, key, defect⟩])

/-- A dictionary with its keys in lower case; of keys that become equal the last counts. -/
def lowerKeys (p : Properties) : Properties :=
  .ofList (p.entries.map fun e => (Text.lower e.1, e.2))

/-- The counts by severity of an image: an object, or a text that encodes one. -/
def imageCounts (n : RawNode) : Option Properties × List PropertyIssue :=
  match n.properties.find? "vulnerabilities" with
  | some (.object members) => (some (lowerKeys (.ofList members)), [])
  | some (.string s) =>
    match Json.ofText s with
    | .ok (.object members) => (some (lowerKeys (.ofList members)), [])
    | _ => (none, [⟨n.fallbackName, "vulnerabilities", .notCounts⟩])
  | _ => (none, [])

/-! ## The rules -/

/-- A vulnerability known to be exploited: flagged, critical unless it says otherwise, with a list of
weaknesses, and labelled by its CVE in upper case. -/
def knownExploitedVerdict (n : RawNode) : Verdict :=
  let (weaknesses, issues) := listFinding n "cwes"
  { kind := Query.VulnerabilityKind.scanned.label
    label := ((n.firstText? ["cve_id", "cveID"]).map Text.upper <|>
      n.firstText? ["vulnerability_name", "name"]).getD n.fallbackName
    findings :=
      .derived "kev" (.bool true) ::
        (if (n.text? "severity").isNone then [.placeholder "severity" (.string "critical")] else [])
        ++ [weaknesses]
    issues }

/-- The label of a compliance summary without a name. -/
def summaryLabel (rawLabel : String) : String :=
  let lowered := Text.asciiLower rawLabel
  if Text.beginsWith lowered "s3" then "S3 Compliance Summary"
  else if Text.beginsWith lowered "database" then "Database Compliance Summary"
  else "Compliance Summary"

def complianceVerdict (n : RawNode) : Verdict :=
  let lists := ("compliance_standards" ::
    ["bucket_names", "credential_names", "findings"].filter n.properties.contains).map
      (listFinding n)
  { kind := n.rawLabel
    label := (n.text? "name").getD (summaryLabel n.rawLabel)
    findings :=
      .derived "compliance_summary" (.bool true) :: countFindings n "findings" none ++
        (if (n.count? "total_findings").isNone then [totalFinding n "findings" none] else []) ++
        lists.map (·.1)
    issues := lists.flatMap (·.2) }

/-- The total of an image: the sum of all counts of a map, else the total that is given, else the
sum of the counts by severity. -/
def imageTotal (n : RawNode) (counts : Option Properties) : Finding :=
  let key := "total_vulnerabilities"
  match counts, n.count? key with
  | some map, _ =>
    .derived key (.number (.natural (saturatingSum (map.values.filterMap Json.count?))))
  | none, some total => .derived key (.number (.natural total))
  | none, none => totalFinding n "vulnerabilities" none

def imageVerdict (n : RawNode) : Verdict :=
  let (counts, issues) := imageCounts n
  { kind := NodeRule.imageLabel
    label := (n.firstText? ["name", "image_uri", "repository"]).getD n.fallbackName
    findings := countFindings n "vulnerabilities" counts ++ [imageTotal n counts]
    issues }

/-- The names under which scanners report an attribute of a vulnerability, the preferred one first. -/
def vulnerabilityAliases : String → List String
  | "vulnerability_id" =>
    ["vulnerability_id", "vulnerabilityid", "vulnerabilityId", "VulnerabilityID"]
  | "package_name" => ["package_name", "pkgname", "pkgName", "PkgName"]
  | "package_version" =>
    ["package_version", "installedversion", "installedVersion", "InstalledVersion"]
  | "fixed_version" => ["fixed_version", "fixedversion", "fixedVersion", "FixedVersion"]
  | "severity" => ["severity", "Severity"]
  | "title" => ["title", "Title"]
  | key => [key]

def vulnerabilityText? (n : RawNode) (key : String) : Option String :=
  n.firstText? (vulnerabilityAliases key)

def knownFinding (key : String) (value : Option String) : List Finding :=
  (value.map fun s => .derived key (.string s)).toList

def filledFinding (key : String) (value : Option String) (default : String) : Finding :=
  match value with
  | some s => .derived key (.string s)
  | none => .placeholder key (.string default)

/-- A vulnerability: its attributes under one set of names, whatever names the scanner uses. A node
that rolls up several has no identifier and no version of its own. -/
def vulnerabilityVerdict (n : RawNode) : Verdict :=
  let id := vulnerabilityText? n "vulnerability_id"
  let isFlagged := match n.properties.find? "kev" with
    | some (.bool _) => true
    | _ => false
  { kind := Query.VulnerabilityKind.scanned.label
    label := (id <|> vulnerabilityText? n "title").getD "Multiple CVEs"
    findings :=
      filledFinding "vulnerability_id" id "Multiple CVEs" ::
        filledFinding "package_version" (vulnerabilityText? n "package_version")
          "Various versions" ::
        knownFinding "package_name" (vulnerabilityText? n "package_name") ++
        knownFinding "fixed_version" (vulnerabilityText? n "fixed_version") ++
        knownFinding "severity" ((vulnerabilityText? n "severity").map Text.lower) ++
        if isFlagged then [] else [.placeholder "kev" (.bool false)] }

def resourceVerdict (n : RawNode) : Verdict where
  kind := n.rawLabel
  label := n.displayName?.getD n.fallbackName

def NodeRule.verdict (n : RawNode) : NodeRule → Verdict
  | .knownExploited => knownExploitedVerdict n
  | .complianceSummary => complianceVerdict n
  | .containerImage => imageVerdict n
  | .vulnerability => vulnerabilityVerdict n
  | .cloudResource | .generic => resourceVerdict n

def writeFindings (p : Properties) (findings : List Finding) : Properties :=
  findings.foldl (fun p f => p.insert f.key f.value) p

/-- Classifies a node by the first rule that applies. -/
def RawNode.classify (n : RawNode) : Classification :=
  let rule := NodeRule.select n
  let v := rule.verdict n
  { rule
    kind := v.kind
    label := v.label
    rawLabel := n.rawLabel
    properties := writeFindings n.properties v.findings
    placeholders := (v.findings.filter (!·.observed)).map (·.key)
    issues := v.issues }

end AssetAtlas
