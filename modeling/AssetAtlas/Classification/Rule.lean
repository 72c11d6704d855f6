import AssetAtlas.Query.Compilation
import AssetAtlas.Record.Basic

/-!
What a node is. Several rules may apply to one node, since a summary can carry the attributes of
what it sums up; the first in the order of priority is the one that counts.
-/

namespace AssetAtlas

inductive NodeRule where
  | knownExploited
  | complianceSummary
  | containerImage
  | vulnerability
  | cloudResource
  | generic
deriving DecidableEq, Repr

namespace NodeRule

def priority : List NodeRule :=
  [.knownExploited, .complianceSummary, .containerImage, .vulnerability, .cloudResource, .generic]

def imageLabel : String := "dockerimage"

/-- Whether a text speaks of stored data and of how sensitive it is. -/
def mentionsCompliance (s : String) : Bool :=
  let t := Text.asciiLower s
  ["database", "s3"].any (Text.contains t) &&
    ["compliance", "pii", "sensitive"].any (Text.contains t)

/-- Whether a node sums up compliance findings, by a label or by its name. -/
def isComplianceSummary (n : RawNode) : Bool :=
  n.labels.any (fun l => Text.finishesWith (Text.asciiLower l) "compliancesummary") ||
    n.labels.any mentionsCompliance ||
    (n.text? "name").any mentionsCompliance

def applies (n : RawNode) : NodeRule → Bool
  | .knownExploited => n.hasLabel Query.VulnerabilityKind.exploited.label
  | .complianceSummary => isComplianceSummary n
  | .containerImage => n.hasLabel imageLabel
  | .vulnerability => n.hasLabel Query.VulnerabilityKind.scanned.label
  | .cloudResource => n.labels.head?.any fun l => Text.beginsWith (Text.asciiLower l) "aws_"
  | .generic => true

def select (n : RawNode) : NodeRule :=
  (priority.find? (applies n)).getD .generic

end NodeRule

end AssetAtlas
