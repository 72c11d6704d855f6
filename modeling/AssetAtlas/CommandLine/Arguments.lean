import AssetAtlas.Criteria.Basic
import AssetAtlas.Report.Format

/-!
The command line: options with a value, flags, and which of them exclude each other. The words are
taken one after the other, so that the first thing that is wrong, or the first call for help, decides.
-/

namespace AssetAtlas

inductive ValueOption where
  | endpoint | token | config | criteria
  | source | relationship | target | severity | package | cve
  | pages | viewportWidth | format | output
deriving DecidableEq, Repr

inductive Flag where
  | single | bidirectional | fullGraph
  | internet | layout | printQuery
  | help | version
deriving DecidableEq, Repr

inductive CommandOption where
  | value (o : ValueOption)
  | flag (f : Flag)
deriving DecidableEq, Repr

namespace CommandOption

def ofName? : String → Option CommandOption
  | "endpoint" => some (.value .endpoint)
  | "token" => some (.value .token)
  | "config" => some (.value .config)
  | "criteria" => some (.value .criteria)
  | "source" => some (.value .source)
  | "relationship" => some (.value .relationship)
  | "target" => some (.value .target)
  | "severity" => some (.value .severity)
  | "package" => some (.value .package)
  | "cve" => some (.value .cve)
  | "single" => some (.flag .single)
  | "bidirectional" => some (.flag .bidirectional)
  | "full-graph" => some (.flag .fullGraph)
  | "internet" => some (.flag .internet)
  | "pages" => some (.value .pages)
  | "layout" => some (.flag .layout)
  | "viewport-width" => some (.value .viewportWidth)
  | "format" => some (.value .format)
  | "output" => some (.value .output)
  | "print-query" => some (.flag .printQuery)
  | "help" => some (.flag .help)
  | "version" => some (.flag .version)
  | _ => none

def ofLetter? : Char → Option CommandOption
  | 'c' => some (.value .config)
  | 'f' => some (.value .format)
  | 'o' => some (.value .output)
  | 'h' => some (.flag .help)
  | 'V' => some (.flag .version)
  | _ => none

end CommandOption

inductive Ending where
  | help
  | version
  | refused (reason : String)
deriving DecidableEq, Repr

structure Arguments where
  endpoint : Option String := none
  token : Option String := none
  config : Option String := none
  criteria : Option String := none
  source : Option String := none
  relationship : Option String := none
  target : Option String := none
  severity : Option String := none
  package : Option String := none
  cve : Option String := none
  single : Bool := false
  bidirectional : Bool := false
  fullGraph : Bool := false
  internet : Bool := false
  /-- How many pages to load after the first one. -/
  pages : Nat := 0
  layout : Bool := false
  viewport : Option Float := none
  format : Option ReportFormat := none
  output : Option String := none
  printQuery : Bool := false

namespace Arguments

def hasCriterion (a : Arguments) : Bool :=
  a.source.isSome || a.relationship.isSome || a.target.isSome || a.severity.isSome ||
    a.package.isSome || a.cve.isSome || a.single || a.bidirectional || a.fullGraph

/-- The mode that the flags choose; without any of them it is one relationship. -/
def mode (a : Arguments) : Mode :=
  if a.single then .singleNode
  else if a.fullGraph then .fullGraph
  else if a.bidirectional then .bidirectional
  else .relationship

/-- A text that was given, without the blanks around it; a blank one counts as not given. -/
def given (s : Option String) : Option String :=
  (s.map Text.trim).filter (!·.isEmpty)

def criterion (a : Arguments) : Criterion where
  source := (given a.source).map (.ofText anyResource)
  relationship := (given a.relationship).map (.ofText anyRelationship)
  target := (given a.target).map (.ofText anyResource)
  filters := { severity := given a.severity, package := given a.package, cve := given a.cve }
  mode := a.mode

/-- Whether options are given that exclude each other. A file of criteria excludes every part of a
criterion, and of the three modes only one can be chosen. -/
def isContradictory (a : Arguments) : Bool :=
  a.criteria.isSome && a.hasCriterion || a.single && (a.bidirectional || a.fullGraph) ||
    a.bidirectional && a.fullGraph

def path? (v : String) : Option String :=
  if v.isEmpty then none else some v

def set? (a : Arguments) (o : ValueOption) (v : String) : Option Arguments :=
  match o with
  | .endpoint => some { a with endpoint := some v }
  | .token => some { a with token := some v }
  | .config => (path? v).map fun p => { a with config := some p }
  | .criteria => (path? v).map fun p => { a with criteria := some p }
  | .source => some { a with source := some v }
  | .relationship => some { a with relationship := some v }
  | .target => some { a with target := some v }
  | .severity => some { a with severity := some v }
  | .package => some { a with package := some v }
  | .cve => some { a with cve := some v }
  | .pages => (Decimal.word? v.toList).map fun n => { a with pages := n.toNat }
  | .viewportWidth => (Decimal.float? v).map fun x => { a with viewport := some x }
  | .format => (ReportFormat.ofNameIgnoringCase? v).map fun f => { a with format := some f }
  | .output => (path? v).map fun p => { a with output := some p }

/-- Sets a flag; two of them end the reading. -/
def raise (a : Arguments) : Flag → Except Ending Arguments
  | .single => .ok { a with single := true }
  | .bidirectional => .ok { a with bidirectional := true }
  | .fullGraph => .ok { a with fullGraph := true }
  | .internet => .ok { a with internet := true }
  | .layout => .ok { a with layout := true }
  | .printQuery => .ok { a with printQuery := true }
  | .help => .error .help
  | .version => .error .version

end Arguments

/-! ## Words -/

inductive CommandWord where
  /-- A long name, with the value that an equals sign attaches to it. -/
  | long (name : String) (value : Option String)
  /-- A short name, with what is attached to it. -/
  | short (letter : Char) (attached : List Char)
  /-- The end of the options. -/
  | border
  | plain
deriving DecidableEq, Repr

namespace CommandWord

/-- What a word is by its form. A lone dash is a value like others. -/
def ofText (s : String) : CommandWord :=
  match s.toList with
  | ['-', '-'] => .border
  | '-' :: '-' :: rest =>
    let name := String.ofList (rest.takeWhile (· != '='))
    match rest.dropWhile (· != '=') with
    | _ :: value => .long name (some (String.ofList value))
    | [] => .long name none
  | '-' :: letter :: attached => .short letter attached
  | _ => .plain

/-- The value that is attached to a short name, with or without an equals sign. -/
def attachedValue? : List Char → Option String
  | [] => none
  | '=' :: value => some (String.ofList value)
  | value => some (String.ofList value)

end CommandWord

/-- What was read of a command line: the arguments, and the options that they come from. -/
structure Reading where
  arguments : Arguments := {}
  given : List CommandOption := []

namespace Reading

/-- Notes that an option is given, which it can be only once. -/
def note (r : Reading) (o : CommandOption) (word : String) : Except Ending Reading :=
  if r.given.contains o then .error (.refused s!"'{word}' cannot be used multiple times")
  else .ok { r with given := o :: r.given }

def flag (r : Reading) (f : Flag) (word : String) : Except Ending Reading := do
  let r ← r.note (.flag f) word
  return { r with arguments := ← r.arguments.raise f }

def value (r : Reading) (o : ValueOption) (v word : String) : Except Ending Reading := do
  let r ← r.note (.value o) word
  match r.arguments.set? o v with
  | some arguments => return { r with arguments }
  | none => throw (.refused s!"invalid value '{v}' for '{word}'")

def finish (r : Reading) : Except Ending Arguments :=
  if r.arguments.isContradictory then .error (.refused "arguments exclude each other")
  else .ok r.arguments

/-- Takes the words of a command line. A value that is not attached to its option is the next word,
unless that has the form of an option. -/
def words (r : Reading) : List String → Except Ending Arguments
  | [] => r.finish
  | word :: rest =>
    let missing : Except Ending Arguments :=
      .error (.refused s!"a value is required for '{word}' but none was supplied")
    let unexpected : Except Ending Arguments :=
      .error (.refused s!"unexpected argument '{word}' found")
    let next (o : ValueOption) : Except Ending Arguments :=
      match rest with
      | v :: rest =>
        match CommandWord.ofText v with
        | .plain => do words (← r.value o v word) rest
        | _ => missing
      | [] => missing
    match CommandWord.ofText word with
    | .border => if rest.isEmpty then r.finish else unexpected
    | .plain => unexpected
    | .long name value =>
      match CommandOption.ofName? name, value with
      | some (.value o), some v => do words (← r.value o v word) rest
      | some (.value o), none => next o
      | some (.flag f), none => do words (← r.flag f word) rest
      | _, _ => unexpected
    | .short letter attached =>
      match CommandOption.ofLetter? letter, CommandWord.attachedValue? attached with
      | some (.value o), some v => do words (← r.value o v word) rest
      | some (.value o), none => next o
      | some (.flag f), _ => do words (← r.flag f word) rest
      | none, _ => unexpected

end Reading

/-- Reads a command line without the name of the program. -/
def Arguments.ofWords (ws : List String) : Except Ending Arguments :=
  Reading.words {} ws

end AssetAtlas
