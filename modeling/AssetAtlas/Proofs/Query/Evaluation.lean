import Mathlib.Data.List.Dedup
import AssetAtlas.Json.Value
import AssetAtlas.Proofs.Query.Contents

/-!
What a program answers on a property graph. Patterns are matched in all ways, one after the other,
and what they bind stays bound; the condition belongs to the last pattern. Along the relationships
of one pattern none comes twice. A pattern that is optional and does not match leaves its own
variables null.

Nodes and relationships are told apart by their identifiers, so two rows are equal when they show
the same ones. There is no negation among the conditions, so one that is unknown may count as one
that is false.
-/

namespace AssetAtlas.Query

structure StoredNode where
  id : Nat
  labels : List String := []
  properties : Properties := {}

structure StoredLink where
  id : Nat
  kind : String
  source : Nat
  target : Nat
  properties : Properties := {}

/-- The content of a store. -/
structure PropertyGraph where
  nodes : List StoredNode
  links : List StoredLink
  nodes_nodup : (nodes.map (·.id)).Nodup
  links_nodup : (links.map (·.id)).Nodup
  ends_mem : ∀ l ∈ links, l.source ∈ nodes.map (·.id) ∧ l.target ∈ nodes.map (·.id)

inductive Value where
  | null
  | node (id : Nat)
  | link (id : Nat)
  /-- The relationships of a pattern of several hops. -/
  | links (ids : List Nat)
  | path (source : Nat) (links : List Nat)
deriving DecidableEq, Repr

/-! ## Assignments -/

/-- The variables that are bound so far, the latest first. -/
structure Assignment where
  bindings : List (String × Value) := []

namespace Assignment

def find? (σ : Assignment) (var : String) : Option Value :=
  σ.bindings.lookup var

def value (σ : Assignment) (var : String) : Value :=
  (σ.find? var).getD .null

def set (σ : Assignment) (var : String) (v : Value) : Assignment :=
  { bindings := (var, v) :: σ.bindings }

/-- Binds a variable; one that is bound has to have the value already. -/
def bind? (σ : Assignment) (var : String) (v : Value) : Option Assignment :=
  match σ.find? var with
  | none => some (σ.set var v)
  | some w => if w = v then some σ else none

/-- Makes those of the variables null that are not bound. -/
def pad (σ : Assignment) (vars : List String) : Assignment :=
  { bindings := σ.bindings ++ vars.map fun var => (var, .null) }

def unwind (σ : Assignment) (u : Unwinding) : List Assignment :=
  match σ.value u.path with
  | .path _ links => links.map fun id => σ.set u.var (.link id)
  | _ => []

end Assignment

/-! ## Patterns -/

structure Walk where
  source : Nat
  links : List StoredLink

namespace Walk

def target (w : Walk) : Nat :=
  (w.links.getLast?.map (·.target)).getD w.source

def linkIds (w : Walk) : List Nat :=
  w.links.map (·.id)

def value (w : Walk) (p : LinkPattern) : Value :=
  match p.hops, w.links with
  | none, [l] => .link l.id
  | _, _ => .links w.linkIds

end Walk

namespace PropertyGraph

variable (g : PropertyGraph)

def node? (id : Nat) : Option StoredNode :=
  g.nodes.find? (·.id = id)

def link? (id : Nat) : Option StoredLink :=
  g.links.find? (·.id = id)

def hasLabel (id : Nat) (label : String) : Bool :=
  (g.node? id).any (·.labels.contains label)

/-- The ways to follow so many relationships from a node, none of them twice. -/
def trails : Nat → Nat → List (List StoredLink)
  | 0, _ => [[]]
  | k + 1, source =>
    (g.links.filter (·.source = source)).flatMap fun l =>
      ((trails k l.target).filter fun rest => rest.all (·.id ≠ l.id)).map (l :: ·)

def walks (p : LinkPattern) : List Walk :=
  let ofLength : List Walk :=
    match p.hops with
    | none => g.links.map fun l => ⟨l.source, [l]⟩
    | some (least, most) =>
      g.nodes.flatMap fun n => (List.range' least (most + 1 - least)).flatMap fun k =>
        (g.trails k n.id).map fun links => ⟨n.id, links⟩
  ofLength.filter fun w => w.links.all fun l => p.kind.all (· = l.kind)

def bindNode (p : NodePattern) (id : Nat) (σ : Assignment) : Option Assignment :=
  if p.label.all (g.hasLabel id) then σ.bind? p.var (.node id) else none

def bindLink (p : LinkPattern) (w : Walk) (σ : Assignment) : Option Assignment :=
  match p.var with
  | none => some σ
  | some var => σ.bind? var (w.value p)

def bindWalk (source : NodePattern) (p : LinkPattern) (target : NodePattern) (σ : Assignment)
    (w : Walk) : Option Assignment := do
  let σ ← g.bindNode source w.source σ
  let σ ← bindLink p w σ
  g.bindNode target w.target σ

def extend (σ : Assignment) : Pattern → List Assignment
  | .node p => g.nodes.filterMap fun n => g.bindNode p n.id σ
  | .link source p target => (g.walks p).filterMap (g.bindWalk source p target σ)
  | .path var source p target =>
    (g.walks p).filterMap fun w => do
      let σ ← g.bindWalk source p target σ w
      σ.bind? var (.path w.source w.linkIds)

/-! ## Conditions -/

def property? (v : Value) (key : String) : Option Json :=
  let properties : Option Properties :=
    match v with
    | .node id => (g.node? id).map (·.properties)
    | .link id => (g.link? id).map (·.properties)
    | _ => none
  match properties.bind (·.find? key) with
  | some .null => none
  | j => j

end PropertyGraph

def Literal.isEqual : Literal → Json → Bool
  | .text s, .string t => s = t
  | .bool a, .bool b => a = b
  | _, _ => false

namespace PropertyGraph

variable (g : PropertyGraph)

mutual

def holds (σ : Assignment) : Predicate → Bool
  | .hasLabel var label =>
    match σ.value var with
    | .node id => g.hasLabel id label
    | _ => false
  | .equal var property value => (g.property? (σ.value var) property).any value.isEqual
  | .unequal var property value => (g.property? (σ.value var) property).any (!value.isEqual ·)
  | .isPresent var property => (g.property? (σ.value var) property).isSome
  | .and members => allHold σ members
  | .or members => someHolds σ members

def allHold (σ : Assignment) : List Predicate → Bool
  | [] => true
  | p :: rest => holds σ p && allHold σ rest

def someHolds (σ : Assignment) : List Predicate → Bool
  | [] => false
  | p :: rest => holds σ p || someHolds σ rest

end

/-! ## Rows -/

def matchRows (m : Match) (condition : Option Predicate) (σ : Assignment) : List Assignment :=
  let found := (g.extend σ m.pattern).filter fun τ => condition.all (g.holds τ)
  if m.isOptional && found.isEmpty then [σ.pad m.pattern.vars] else found

/-- The rows of patterns in a row; the condition belongs to the last one. -/
def matchAll (condition : Option Predicate) : List Match → Assignment → List Assignment
  | [], σ => [σ]
  | [m], σ => g.matchRows m condition σ
  | m :: next :: rest, σ =>
    (g.matchRows m none σ).flatMap (matchAll condition (next :: rest))

def rows (patterns : List Match) (condition : Option Predicate) (unwinding : Option Unwinding) :
    List Assignment :=
  let matched := g.matchAll condition patterns {}
  match unwinding with
  | none => matched
  | some u => matched.flatMap (·.unwind u)

/-! ## Answers -/

def linkEnd (v : Value) (side : StoredLink → Nat) : Value :=
  match v with
  | .link id => ((g.link? id).map fun l => .node (side l)).getD .null
  | _ => .null

def termValue (σ : Assignment) : Term → Value
  | .var name => σ.value name
  | .null => .null
  | .startOf link => g.linkEnd (σ.value link) (·.source)
  | .endOf link => g.linkEnd (σ.value link) (·.target)

end PropertyGraph

inductive Answer where
  | triple (n r m : Value)
  | count (k : Nat)
deriving DecidableEq, Repr

namespace PropertyGraph

variable (g : PropertyGraph)

def branchAnswers (b : Branch) : List Answer :=
  let rows := g.rows b.patterns b.condition b.unwinding
  match b.columns with
  | .triple n r m =>
    rows.map fun σ => .triple (g.termValue σ n) (g.termValue σ r) (g.termValue σ m)
  | .count t => [.count (rows.countP fun σ => g.termValue σ t ≠ .null)]

/-- The answers of all branches. Where there is one branch there is no union. -/
def unite (p : Program) : List Answer :=
  match p.branches, p.union with
  | [b], _ => g.branchAnswers b
  | branches, .distinct => (branches.flatMap g.branchAnswers).dedup
  | branches, .all => branches.flatMap g.branchAnswers

def eval (p : Program) : List Answer :=
  match p.limit with
  | none => g.unite p
  | some limit => (g.unite p).take limit

end PropertyGraph

end AssetAtlas.Query
