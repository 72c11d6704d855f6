import AssetAtlas.Classification.Basic
import AssetAtlas.Exposure.Internet
import AssetAtlas.Proofs.Graph.WellFormed
import AssetAtlas.Proofs.Query.Conditions
import AssetAtlas.Proofs.Query.Matching
import AssetAtlas.Proofs.Text.Trimming

/-!
The two forms of the rules of exposure: conditions that the store evaluates, and tests on the nodes
that came back. The tests read a node more freely than the store does. They do not mind the case of
labels and blanks around texts, a blank text says nothing to them, and a truth value may be written
as a text. On nodes that leave no room for this, which `Exposure.Plain` describes rule by rule, the
two forms say the same, and the internet is connected to the nodes that its branch of the query
brings.
-/

namespace AssetAtlas

open Query

namespace Query

/-- A stored node as a node of a graph, under any identifier, label and type. -/
def StoredNode.shown (n : StoredNode) (id label kind : String) : Node where
  id := id
  label := label
  kind := kind
  rawLabel := { labels := n.labels : RawNode }.rawLabel
  labels := n.labels
  properties := n.properties

/-- A property is a text that is not blank. -/
def StoredNode.Says (n : StoredNode) (key : String) : Prop :=
  ∃ s, n.properties.find? key = some (.string s) ∧ Text.nonBlank? s ≠ none

theorem StoredNode.Says.gives {n : StoredNode} {key : String} (h : n.Says key) : n.Gives key := by
  obtain ⟨s, hs, -⟩ := h
  exact ⟨_, hs, nofun⟩

end Query

namespace Exposure

/-- The properties that a rule looks at can be read in one way only. -/
def PlainProperties (n : StoredNode) : Exposure → Prop
  | .openIngress =>
    (∀ s, n.properties.find? "cidr_ipv4" = some (.string s) → Text.trim s = everywhere →
      s = everywhere) ∧
    (n.properties.find? "cidr_ipv4" = some (.string everywhere) → n.Gives "type" ∧
      ∀ s, n.properties.find? "type" = some (.string s) → Text.trim s = "egress" → s = "egress")
  | .publicBucket =>
    ∀ s, n.properties.find? "bucket_policy_is_public" = some (.string s) →
      Text.sameIgnoringCase s "true" = false
  | .publicInstance =>
    n.Gives "public_ip_address" ∨ n.Gives "public_dns_name" →
      n.Says "public_ip_address" ∨ n.Says "public_dns_name"

/-- What a rule looks at can be read in one way only. Its label is not there in another case alone,
and on nodes with its label the properties are plain. -/
structure Plain (e : Exposure) (n : StoredNode) : Prop where
  label : ∀ l ∈ n.labels, Text.sameIgnoringCase l e.label = true → e.label ∈ n.labels
  properties : e.label ∈ n.labels → e.PlainProperties n

end Exposure

/-! ## The graph -/

theorem Node.trimmedText?_eq_some_iff {n : Node} {key t : String} :
    n.trimmedText? key = some t ↔
      ∃ s, n.properties.find? key = some (.string s) ∧ Text.trim s = t ∧ t ≠ "" := by
  simp only [trimmedText?, Option.bind_eq_some_iff, Text.nonBlank?_eq_some_iff]
  constructor
  · rintro ⟨s, ⟨j, hj, hs⟩, ht⟩
    cases j <;> simp_all [Json.string?]
  · rintro ⟨s, hs, ht⟩
    exact ⟨s, ⟨_, hs, rfl⟩, ht⟩

theorem Node.isTruthy_iff {n : Node} {key : String} :
    n.isTruthy key = true ↔ n.properties.find? key = some (.bool true) ∨
      ∃ s, n.properties.find? key = some (.string s) ∧ Text.sameIgnoringCase s "true" = true := by
  unfold isTruthy
  split <;> simp_all

/-! ## The rules -/

namespace Exposure

variable {g : PropertyGraph} {n : StoredNode} (hn : n ∈ g.nodes) {σ : Assignment} {var : String}
  (hvar : σ.value var = .node n.id) (id label kind : String)

theorem hasLabel_shown_iff {e : Exposure} (h : e.Plain n) :
    (n.shown id label kind).hasLabel e.label = true ↔ e.label ∈ n.labels := by
  have hunknown : Text.sameIgnoringCase "unknown" e.label = false := by
    cases e <;> decide +kernel
  cases hlabels : n.labels with
  | nil => simp [Node.hasLabel, StoredNode.shown, RawNode.rawLabel, hlabels, hunknown]
  | cons l rest =>
      have hsome : (n.shown id label kind).labels.isEmpty = false := by
        simp [StoredNode.shown, hlabels]
      rw [Node.hasLabel, hsome, if_neg Bool.false_ne_true, List.any_eq_true, ← hlabels]
      constructor
      · rintro ⟨l', hl', hsame⟩
        exact h.label l' hl' hsame
      · intro hmem
        exact ⟨e.label, hmem, beq_self_eq_true _⟩

theorem openIngress_agrees (h : PlainProperties n .openIngress) :
    (n.properties.find? "cidr_ipv4" = some (.string everywhere) ∧ n.Gives "type" ∧
        n.properties.find? "type" ≠ some (.string "egress")) ↔
      (n.shown id label kind).trimmedText? "cidr_ipv4" = some everywhere ∧
        (n.shown id label kind).trimmedText? "type" ≠ some "egress" := by
  obtain ⟨hcidr, htype⟩ := h
  simp only [ne_eq, Node.trimmedText?_eq_some_iff]
  constructor
  · rintro ⟨hopen, hgives, hne⟩
    refine ⟨⟨everywhere, hopen, by decide +kernel, by decide⟩, ?_⟩
    rintro ⟨s, hs, htrim, -⟩
    obtain rfl := (htype hopen).2 s hs htrim
    exact hne hs
  · rintro ⟨⟨s, hs, htrim, -⟩, hne⟩
    obtain rfl := hcidr s hs htrim
    refine ⟨hs, (htype hs).1, ?_⟩
    intro hegress
    exact hne ⟨"egress", hegress, by decide +kernel, by decide⟩

theorem publicBucket_agrees (h : PlainProperties n .publicBucket) :
    n.properties.find? "bucket_policy_is_public" = some (.bool true) ↔
      (n.shown id label kind).isTruthy "bucket_policy_is_public" = true := by
  rw [Node.isTruthy_iff]
  constructor
  · exact .inl
  · rintro (hbool | ⟨s, hs, htrue⟩)
    · exact hbool
    · rw [h s hs] at htrue
      exact nomatch htrue

theorem says_iff (key : String) :
    n.Says key ↔ ((n.shown id label kind).trimmedText? key).isSome = true := by
  rw [Option.isSome_iff_exists]
  simp only [Node.trimmedText?, Option.bind_eq_some_iff]
  constructor
  · rintro ⟨s, hs, hsome⟩
    obtain ⟨t, ht⟩ := Option.ne_none_iff_exists'.mp hsome
    exact ⟨t, s, ⟨.string s, hs, rfl⟩, ht⟩
  · rintro ⟨t, s, ⟨j, hj, hs⟩, ht⟩
    cases j <;> simp_all [Json.string?, StoredNode.Says, StoredNode.shown]

include hn hvar

/-- Where a node is plain, a rule as a condition and as a test say the same. -/
theorem holds_predicate_iff {e : Exposure} (h : e.Plain n) :
    g.holds σ (e.predicate var) = true ↔ e.holds (n.shown id label kind) = true := by
  have hlabel := hasLabel_shown_iff id label kind h
  unfold predicate Exposure.holds
  rw [g.holds_and_pair_iff, g.holds_hasLabel_iff hn hvar, Bool.and_eq_true, hlabel]
  apply and_congr_right
  intro hmem
  have hproperties := h.properties hmem
  cases e with
  | openIngress =>
      rw [g.holds_and_pair_iff, g.holds_equal_text_iff hn hvar, g.holds_unequal_text_iff hn hvar,
        openIngress_agrees id label kind hproperties]
      simp
  | publicBucket =>
      rw [g.holds_equal_bool_iff hn hvar]
      exact publicBucket_agrees id label kind hproperties
  | publicInstance =>
      dsimp only
      rw [g.holds_or_pair_iff, g.holds_isPresent_iff hn hvar, g.holds_isPresent_iff hn hvar,
        Bool.or_eq_true, ← says_iff, ← says_iff]
      exact ⟨hproperties, Or.imp StoredNode.Says.gives StoredNode.Says.gives⟩

theorem holds_anyPredicate_iff (h : ∀ e : Exposure, e.Plain n) :
    g.holds σ (anyPredicate var) = true ↔ (n.shown id label kind).isExposed = true := by
  have hall (e : Exposure) : e ∈ all := by
    cases e <;> decide
  rw [anyPredicate, PropertyGraph.holds, g.someHolds_iff, Node.isExposed, List.any_eq_true]
  constructor
  · rintro ⟨p, hp, hholds⟩
    obtain ⟨e, he, rfl⟩ := List.mem_map.mp hp
    exact ⟨e, he, (holds_predicate_iff hn hvar id label kind (h e)).mp hholds⟩
  · rintro ⟨e, he, hholds⟩
    exact ⟨_, List.mem_map_of_mem he, (holds_predicate_iff hn hvar id label kind (h e)).mpr hholds⟩

end Exposure

/-! ## The internet -/

theorem Query.Assignment.value_set_self (σ : Assignment) (var : String) (v : Value) :
    (σ.set var v).value var = v := by
  rw [value, find?_set_self]
  rfl

/-- What the branch for the internet binds for a node. -/
def Query.StoredNode.assignment (n : StoredNode) : Assignment :=
  Assignment.set {} "n" (.node n.id)

theorem Query.PropertyGraph.branchAnswers_internetBranch (g : PropertyGraph) :
    g.branchAnswers internetBranch =
      (g.nodes.filter fun n => g.holds n.assignment (Exposure.anyPredicate "n")).map fun n =>
        .triple (.node n.id) .null .null := by
  have hextend : g.extend {} (.node ⟨"n", none⟩) = g.nodes.map StoredNode.assignment :=
    congrFun (List.filterMap_eq_map (f := StoredNode.assignment)) g.nodes
  have hrows : g.rows internetBranch.patterns internetBranch.condition internetBranch.unwinding =
      (g.nodes.map StoredNode.assignment).filter
        (g.holds · (Exposure.anyPredicate "n")) := by
    rw [← hextend]
    rfl
  have hanswers : g.branchAnswers internetBranch =
      ((g.nodes.map StoredNode.assignment).filter (g.holds · (Exposure.anyPredicate "n"))).map
        fun σ => .triple (σ.value "n") .null .null := by
    rw [← hrows]
    rfl
  rw [hanswers, List.filter_map, List.map_map]
  exact List.map_congr_left fun n _ => congrArg (Answer.triple · .null .null)
    (Assignment.value_set_self {} "n" (.node n.id))

namespace Exposure

/-- The two forms of a rule agree on every node that is plain to it, as a condition that the store
evaluates and as a test on the node as it is shown. If all nodes of a store are plain to all rules,
the branch for the internet brings exactly the nodes that the internet is connected to. -/
theorem query_and_memory_agree (g : PropertyGraph) (name label kind : StoredNode → String) :
    (∀ n ∈ g.nodes, ∀ e : Exposure, e.Plain n → ∀ (σ : Assignment) (var : String),
      σ.value var = .node n.id →
      (g.holds σ (e.predicate var) = true ↔
        e.holds (n.shown (name n) (label n) (kind n)) = true)) ∧
    ((∀ n ∈ g.nodes, name n ≠ Internet.nodeId ∧ ∀ e : Exposure, e.Plain n) →
      ∃ fetched : List StoredNode,
        g.branchAnswers internetBranch =
          fetched.map (fun n => .triple (.node n.id) .null .null) ∧
        ∀ edges, fetched.map name =
          Graph.exposedIds ⟨g.nodes.map fun n => n.shown (name n) (label n) (kind n), edges⟩) := by
  constructor
  · intro n hn e hplain σ var hvar
    exact holds_predicate_iff hn hvar _ _ _ hplain
  · intro hnodes
    refine ⟨_, g.branchAnswers_internetBranch, fun edges => ?_⟩
    rw [Graph.exposedIds, List.filter_map, List.map_map]
    refine congrArg (List.map name) (List.filter_congr fun n hn => ?_)
    obtain ⟨hname, hplain⟩ := hnodes n hn
    have hholds := holds_anyPredicate_iff hn
      (Assignment.value_set_self {} "n" (.node n.id)) (name n) (label n) (kind n) hplain
    change g.holds n.assignment (anyPredicate "n") =
      (name n != Internet.nodeId && (n.shown (name n) (label n) (kind n)).isExposed)
    rw [bne_iff_ne.mpr hname, Bool.true_and, Bool.eq_iff_iff]
    exact hholds

/-- An instance with blanks around its address and without a name. -/
def paddedInstance : StoredNode where
  id := 0
  labels := ["Tagged", "aws_ec2_instance"]
  properties :=
    ⟨[("public_dns_name", .null), ("public_ip_address", .string " 54.1.2.3 ")], by decide⟩

/-- A security group rule whose type is a number. -/
def numberedRule : StoredNode where
  id := 1
  labels := ["aws_vpc_security_group_rule"]
  properties := ⟨[("cidr_ipv4", .string "0.0.0.0/0"), ("type", .ofNat 7)], by decide⟩

/-- A bucket with a truth value in words. -/
def wordyBucket : StoredNode where
  id := 0
  labels := ["aws_s3_bucket"]
  properties := ⟨[("bucket_policy_is_public", .string "true")], by decide⟩

def namelessInstance : StoredNode where
  id := 1
  labels := ["aws_ec2_instance"]
  properties := ⟨[("public_dns_name", .string "")], by decide⟩

def storeOf (a b : StoredNode) (h : ([a, b].map (·.id)).Nodup) : PropertyGraph where
  nodes := [a, b]
  links := []
  nodes_nodup := h
  links_nodup := List.nodup_nil
  ends_mem := List.forall_mem_nil _

theorem plain_paddedInstance (e : Exposure) : e.Plain paddedInstance := by
  cases e with
  | openIngress => exact ⟨by decide +kernel, fun h => absurd h (by decide)⟩
  | publicBucket => exact ⟨by decide +kernel, fun h => absurd h (by decide)⟩
  | publicInstance =>
      refine ⟨by decide +kernel, fun _ _ => .inl ⟨" 54.1.2.3 ", rfl, by decide +kernel⟩⟩

theorem plain_numberedRule (e : Exposure) : e.Plain numberedRule := by
  cases e with
  | openIngress =>
      refine ⟨by decide +kernel, fun _ => ⟨?_, fun _ => ⟨⟨.ofNat 7, rfl, nofun⟩, ?_⟩⟩⟩
      · intro s hs _
        exact (Json.string.inj (Option.some.inj hs)).symm
      · intro s hs
        exact nomatch Option.some.inj hs
  | publicBucket => exact ⟨by decide +kernel, fun h => absurd h (by decide)⟩
  | publicInstance => exact ⟨by decide +kernel, fun h => absurd h (by decide)⟩

/-- A store whose nodes are plain though unusual: a padded address, a null and a numeric type. -/
theorem query_and_memory_agree_padded :
    let g := storeOf paddedInstance numberedRule (by decide)
    let name (n : StoredNode) := toString n.id
    (∀ n ∈ g.nodes, name n ≠ Internet.nodeId ∧ ∀ e : Exposure, e.Plain n) ∧
      (g.holds numberedRule.assignment (openIngress.predicate "n") = true ↔
        openIngress.holds (numberedRule.shown "1" "" "") = true) ∧
      ∃ fetched : List StoredNode,
        g.branchAnswers internetBranch =
          fetched.map (fun n => .triple (.node n.id) .null .null) ∧
        fetched.map name = ["0", "1"] ∧
        ∀ edges, fetched.map name =
          Graph.exposedIds ⟨g.nodes.map fun n => n.shown (name n) "" "", edges⟩ := by
  intro g name
  have hnodes : ∀ n ∈ g.nodes, name n ≠ Internet.nodeId ∧ ∀ e : Exposure, e.Plain n :=
    List.forall_mem_cons.mpr ⟨⟨by decide, plain_paddedInstance⟩,
      List.forall_mem_singleton.mpr ⟨by decide, plain_numberedRule⟩⟩
  obtain ⟨hagree, hfetched⟩ := query_and_memory_agree g name (fun _ => "") (fun _ => "")
  have hrule : numberedRule ∈ g.nodes := List.mem_cons_of_mem _ List.mem_cons_self
  refine ⟨hnodes, hagree numberedRule hrule openIngress (plain_numberedRule _) _ "n" rfl, ?_⟩
  obtain ⟨fetched, hanswers, hexposed⟩ := hfetched hnodes
  refine ⟨fetched, hanswers, ?_, hexposed⟩
  rw [hexposed []]
  decide +kernel

/-- In memory a truth value may be a text and a blank name is none; the store sees it otherwise. -/
theorem query_and_memory_disagree :
    let g := storeOf wordyBucket namelessInstance (by decide)
    (g.holds wordyBucket.assignment (publicBucket.predicate "n") = false ∧
      publicBucket.holds (wordyBucket.shown "0" "" "") = true) ∧
    g.holds namelessInstance.assignment (publicInstance.predicate "n") = true ∧
      publicInstance.holds (namelessInstance.shown "1" "" "") = false := by
  decide +kernel

end Exposure

end AssetAtlas
