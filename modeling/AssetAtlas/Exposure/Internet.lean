import AssetAtlas.Exposure.Rule
import AssetAtlas.Graph.Model

/-!
Exposed assets in a graph: the rules of exposure as tests on nodes, and the node that stands for the
internet, with an edge to every node that is open to it.
-/

namespace AssetAtlas

/-- A textual property without blanks at its ends, if anything is left of it. -/
def Node.trimmedText? (n : Node) (key : String) : Option String :=
  ((n.properties.find? key).bind Json.string?).bind Text.nonBlank?

/-- Whether a property says yes, as a truth value or as text. -/
def Node.isTruthy (n : Node) (key : String) : Bool :=
  match n.properties.find? key with
  | some (.bool b) => b
  | some (.string s) => Text.sameIgnoringCase s "true"
  | _ => false

namespace Exposure

def holds (e : Exposure) (n : Node) : Bool :=
  n.hasLabel e.label && match e with
    | .openIngress =>
      n.trimmedText? "cidr_ipv4" == some everywhere && n.trimmedText? "type" != some "egress"
    | .publicBucket => n.isTruthy "bucket_policy_is_public"
    | .publicInstance =>
      (n.trimmedText? "public_ip_address").isSome || (n.trimmedText? "public_dns_name").isSome

end Exposure

def Node.isExposed (n : Node) : Bool :=
  Exposure.all.any (·.holds n)

namespace Internet

def nodeId : String := "internet"

def edgeKind : String := "internet_access"

def countKey : String := "publicConnections"

def node (connections : Nat) : Node where
  id := nodeId
  label := "Internet"
  kind := nodeId
  rawLabel := nodeId
  properties := Dictionary.empty.insert countKey (.ofNat connections)

def edge (target : String) : Edge :=
  .plain s!"{nodeId}->{target}" nodeId target edgeKind

/-- Appends the edge to a reachable node unless there is an edge of its name. -/
def connect (edges : List Edge) (target : String) : List Edge :=
  if edges.any (·.id == (edge target).id) then edges else edges ++ [edge target]

/-- Records the number of reachable nodes on the first node for the internet, which is appended if
there is none. -/
def record (connections : Nat) : List Node → List Node
  | [] => [node connections]
  | n :: rest =>
    if n.id == nodeId then
      { n with properties := n.properties.insert countKey (.ofNat connections) } :: rest
    else n :: record connections rest

end Internet

namespace Graph

def exposedIds (g : Graph) : List String :=
  (g.nodes.filter fun n => n.id != Internet.nodeId && n.isExposed).map (·.id)

/-- Connects the internet to every reachable node; without any the graph stays as it is. -/
def withInternet (g : Graph) : Graph :=
  let exposed := g.exposedIds
  if exposed.isEmpty then g
  else
    { nodes := Internet.record exposed.length g.nodes
      edges := exposed.foldl Internet.connect g.edges }

end Graph

end AssetAtlas
