/-!
What can go wrong while a graph is asked for and shaped, and the text that reports it.
-/

namespace AssetAtlas

inductive Fault where
  | uncompilable (reason : String)
  /-- The store did not answer, or its answer reports a failure; with the HTTP status if there is
  one. -/
  | queryFailed (status : Option Nat) (message : String)
  /-- A row of a result, or its relationship, was left out. -/
  | rowSkipped (reason : String)
  /-- A property of a node could not be decoded. -/
  | undecodable (node property reason : String)
  | contradictory (reason : String)
  | unreadable (path details : String)
  | unwritable (path details : String)
  | invalid (message : String)
  | other (message : String)
deriving DecidableEq, Repr

def statusText : Option Nat → String
  | some status => s!" (HTTP {status})"
  | none => ""

namespace Fault

/-- The text of a failure; most end with a hint on what to do. -/
def message : Fault → String
  | .uncompilable reason => s!"Failed to compile query: {reason}"
  | .queryFailed status message =>
    s!"Query execution failed{statusText status}: {message}\n\n💡 Hint: Please verify the --endpoint URL and that the graph store is reachable"
  | .rowSkipped reason => s!"Skipped result row: {reason}"
  | .undecodable node property reason =>
    s!"Could not decode property '{property}' on node {node}: {reason}"
  | .contradictory reason =>
    s!"Invalid filter criterion: {reason}\n\n💡 Hint: A criterion can be bidirectional or full-graph, not both"
  | .unreadable path details =>
    s!"Failed to read file: {path}\nDetails: {details}\n\n💡 Hint: Please verify that the file exists and you have read permissions"
  | .unwritable path details =>
    s!"Failed to write to file: {path}\nDetails: {details}\n\n💡 Hint: Please verify that the directory exists and you have write permissions"
  | .invalid message => s!"Validation error: {message}"
  | .other message => message

end Fault

inductive ExitStatus where
  | success
  | invalidArguments
  | failure
deriving DecidableEq, Repr

namespace ExitStatus

def code : ExitStatus → UInt8
  | .success => 0
  | .invalidArguments => 2
  | .failure => 3

def message (e : ExitStatus) : String :=
  let words := match e with
    | .success => "Success"
    | .invalidArguments => "Invalid Arguments"
    | .failure => "Application Error"
  s!"{words} ({e.code})"

end ExitStatus

end AssetAtlas
