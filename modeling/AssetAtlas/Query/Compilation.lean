import AssetAtlas.Criteria.Basic
import AssetAtlas.Exposure.Rule
import AssetAtlas.Query.Text

/-!
From criteria to a query program. Each criterion gives one branch, and a bidirectional one a second
branch for the other direction; the filters become conditions on the sides that can carry them. The
count program asks how many rows the data program has, branch by branch.
-/

namespace AssetAtlas.Query

/-- The two kinds of nodes that describe vulnerabilities. -/
inductive VulnerabilityKind where
  /-- Found by a scanner. -/
  | scanned
  /-- Known to be exploited. -/
  | exploited
deriving DecidableEq, Repr

inductive Attribute where
  | severity | package | cve
deriving DecidableEq, Repr

namespace VulnerabilityKind

def all : List VulnerabilityKind := [.scanned, .exploited]

def label : VulnerabilityKind → String
  | .scanned => "vulnerability"
  | .exploited => "knownexploitedvulnerability"

/-- The kind with a label; the case of ASCII letters does not matter. -/
def ofLabel? (label : String) : Option VulnerabilityKind :=
  all.find? fun kind => Text.sameIgnoringCase label kind.label

def property : VulnerabilityKind → Attribute → String
  | _, .severity => "severity"
  | .scanned, .package => "pkgname"
  | .scanned, .cve => "vulnerabilityid"
  | .exploited, .package => "product"
  | .exploited, .cve => "cve_id"

end VulnerabilityKind

/-- What a side of a criterion can carry. -/
inductive Bearing where
  /-- Vulnerabilities of one kind. -/
  | concrete (kind : VulnerabilityKind)
  /-- Anything; whether it is a vulnerability is part of the question. -/
  | ambiguous
deriving DecidableEq, Repr

namespace Bearing

def isConcrete : Bearing → Bool
  | .concrete _ => true
  | .ambiguous => false

/-- What the nodes of a selector can carry; nothing when they are not vulnerabilities. -/
def ofSelector? : Selector → Option Bearing
  | .any => some .ambiguous
  | .named label => (VulnerabilityKind.ofLabel? label).map .concrete

end Bearing

/-- A variable with the selector of its nodes. -/
structure Side where
  var : String
  selector : Selector

/-- The sides that can carry vulnerabilities. If some are bound to a kind, only these count. -/
def scopedSides (sides : List Side) : List (String × Bearing) :=
  let bearing := sides.filterMap fun s => (Bearing.ofSelector? s.selector).map fun b => (s.var, b)
  if bearing.any (·.2.isConcrete) then bearing.filter (·.2.isConcrete) else bearing

def sidePredicate (a : Attribute) (value : String) (var : String) : Bearing → Predicate
  | .concrete kind => .equal var (kind.property a) (.text value)
  | .ambiguous =>
    let kinds := VulnerabilityKind.all
    let shared := VulnerabilityKind.scanned.property a
    if kinds.all fun k => k.property a = shared then
      .and [.or (kinds.map fun k => .hasLabel var k.label), .equal var shared (.text value)]
    else
      .or (kinds.map fun k =>
        .and [.hasLabel var k.label, .equal var (k.property a) (.text value)])

def requested (f : Filters) : List (Attribute × String) :=
  [(.severity, f.severity), (.package, f.package), (.cve, f.cve)].filterMap fun (a, v) =>
    v.map fun v => (a, v)

/-- The condition that every filter holds on some side that can carry it. -/
def filterPredicate (f : Filters) (sides : List Side) : Option Predicate :=
  let relevant := scopedSides sides
  Predicate.all <| (requested f).filterMap fun (a, value) =>
    Predicate.any (relevant.map fun (var, bearing) => sidePredicate a value var bearing)

/-- Whether a program answers with rows or with their number. -/
inductive Purpose where
  | data
  | count
deriving DecidableEq, Repr

/-- The columns for a purpose: the given ones, or the number of rows in which a variable is bound. -/
def Purpose.columns (purpose : Purpose) (var : String) (columns : Columns) : Columns :=
  match purpose with
  | .data => columns
  | .count => .count (.var var)

def required (p : Pattern) : Match := ⟨false, p⟩

/-- All nodes, each with its relationships if it has any. -/
def defaultBranch (purpose : Purpose) : Branch :=
  let nodes := required (.node ⟨"n", none⟩)
  match purpose with
  | .count => { patterns := [nodes], columns := .count (.var "n") }
  | .data =>
    { patterns := [nodes, ⟨true, .link ⟨"n", none⟩ ⟨some "r", none, none⟩ ⟨"m", none⟩⟩]
      columns := .plain }

def nodeBranch (purpose : Purpose) (source : Selector) (f : Filters) : Branch where
  patterns := [required (.node ⟨"n", source.name?⟩)]
  condition := filterPredicate f [⟨"n", source⟩]
  columns := purpose.columns "n" .nodeOnly

def linkBranch (purpose : Purpose) (source : Selector) (kind : Option String) (target : Selector)
    (link : String) (f : Filters) : Branch where
  patterns :=
    [required (.node ⟨"n", source.name?⟩),
      required (.link ⟨"n", none⟩ ⟨some link, kind, none⟩ ⟨"m", target.name?⟩)]
  condition := filterPredicate f [⟨"n", source⟩, ⟨"m", target⟩]
  columns := purpose.columns link (.triple (.var "n") (.var link) (.var "m"))

def maxHops : Nat := 10

/-- The relationships on the paths from the nodes of one selector to those of another. -/
def pathBranch (purpose : Purpose) (source target : Selector) (f : Filters) : Branch where
  patterns :=
    [required (.path "p" ⟨"src", source.name?⟩ ⟨none, none, some (1, maxHops)⟩
      ⟨"dst", target.name?⟩)]
  condition := filterPredicate f [⟨"src", source⟩, ⟨"dst", target⟩]
  unwinding := some ⟨"p", "r"⟩
  columns := purpose.columns "r" (.triple (.startOf "r") (.var "r") (.endOf "r"))

def internetBranch : Branch where
  patterns := [required (.node ⟨"n", none⟩)]
  condition := some (Exposure.anyPredicate "n")
  columns := .nodeOnly

/-- The branches of a criterion. The other direction of a bidirectional one is only asked for when
its relationship type is known, and never counted. -/
def criterionBranches (purpose : Purpose) (c : Criterion) : List Branch :=
  let source := c.source.getD .any
  let target := c.targetOrAny
  let kind := c.relationshipOrAny.name?
  let forward := linkBranch purpose source kind target "r" c.filters
  match c.mode with
  | .singleNode => [nodeBranch purpose source c.filters]
  | .fullGraph => [pathBranch purpose source target c.filters]
  | .relationship => [forward]
  | .bidirectional =>
    if kind.isSome && purpose = .data then
      [forward, linkBranch purpose target kind source "r2" c.filters]
    else [forward]

/-- The branches of a list of criteria. A list that is empty or begins with a blank criterion asks
for everything; later blank criteria are skipped. -/
def criteriaBranches (purpose : Purpose) : List Criterion → List Branch
  | [] => [defaultBranch purpose]
  | c :: rest =>
    if c.isBlank then [defaultBranch purpose]
    else ((c :: rest).filter (!·.isBlank)).flatMap (criterionBranches purpose)

/-- The program that answers a list of criteria with at most `limit` rows, and with the nodes open
to the internet if asked to. -/
def dataProgram (criteria : List Criterion) (limit : Nat) (showInternet : Bool) : Program where
  branches := criteriaBranches .data criteria ++ if showInternet then [internetBranch] else []
  union := .distinct
  limit := some limit

def countProgram (criteria : List Criterion) : Program where
  branches := criteriaBranches .count criteria
  union := .all
  limit := none

/-- The program that answers a list of criteria for a purpose. Rows are counted without a limit, and
the nodes open to the internet are never counted. -/
def program (purpose : Purpose) (criteria : List Criterion) (limit : Nat) (showInternet : Bool) :
    Program :=
  match purpose with
  | .data => dataProgram criteria limit showInternet
  | .count => countProgram criteria

end AssetAtlas.Query
