/-!
Query programs as trees: patterns to match, a condition on what was matched, and the columns of the
answer. A program is a union of branches with an optional limit on all of it. How a program is
written is not decided here.
-/

namespace AssetAtlas.Query

/-- `(variable:label)` -/
structure NodePattern where
  var : String
  label : Option String := none
deriving DecidableEq, Repr

/-- `-[variable:kind*hops]->` -/
structure LinkPattern where
  var : Option String := none
  kind : Option String := none
  /-- The least and the greatest number of relationships in a row. -/
  hops : Option (Nat × Nat) := none
deriving DecidableEq, Repr

inductive Pattern where
  | node (n : NodePattern)
  /-- `(source)-[link]->(target)`; the nodes may repeat variables that are already bound. -/
  | link (source : NodePattern) (link : LinkPattern) (target : NodePattern)
  /-- `path = (source)-[link]->(target)` -/
  | path (var : String) (source : NodePattern) (link : LinkPattern) (target : NodePattern)
deriving DecidableEq, Repr

/-- One pattern of a branch. Without a match an optional pattern leaves its variables null. -/
structure Match where
  isOptional : Bool
  pattern : Pattern
deriving DecidableEq, Repr

inductive Literal where
  | text (s : String)
  | bool (b : Bool)
deriving DecidableEq, Repr

inductive Predicate where
  /-- `variable:label` -/
  | hasLabel (var label : String)
  /-- `variable.property = value` -/
  | equal (var property : String) (value : Literal)
  /-- `variable.property <> value` -/
  | unequal (var property : String) (value : Literal)
  /-- `variable.property IS NOT NULL` -/
  | isPresent (var property : String)
  | and (members : List Predicate)
  | or (members : List Predicate)
deriving Repr

namespace Predicate

/-- All of the conditions, without a conjunction around fewer than two. -/
def all : List Predicate → Option Predicate
  | [] => none
  | [p] => some p
  | p :: q :: rest => some (.and (p :: q :: rest))

/-- Any of the conditions, without a disjunction around fewer than two. -/
def any : List Predicate → Option Predicate
  | [] => none
  | [p] => some p
  | p :: q :: rest => some (.or (p :: q :: rest))

end Predicate

inductive Term where
  | var (name : String)
  | null
  | startOf (link : String)
  | endOf (link : String)
deriving DecidableEq, Repr

inductive Columns where
  /-- A node, a relationship and a node, under the names `n`, `r` and `m`. -/
  | triple (n r m : Term)
  /-- The number of rows in which the term is not null, under the name `count`. -/
  | count (t : Term)
deriving DecidableEq, Repr

namespace Columns

/-- The columns that hold the variables of their names. -/
def plain : Columns := .triple (.var "n") (.var "r") (.var "m")

def nodeOnly : Columns := .triple (.var "n") .null .null

end Columns

/-- One row per relationship of a path. -/
structure Unwinding where
  path : String
  var : String
deriving DecidableEq, Repr

/-- One part of a union, matched on its own. -/
structure Branch where
  patterns : List Match
  condition : Option Predicate := none
  unwinding : Option Unwinding := none
  columns : Columns

/-- Whether a union removes equal rows. -/
inductive Union where
  | distinct
  | all
deriving DecidableEq, Repr

structure Program where
  branches : List Branch
  union : Union
  limit : Option Nat

end AssetAtlas.Query
