import AssetAtlas.Exposure.Internet
import AssetAtlas.Proofs.Graph.WellFormed

/-!
The internet in a graph. In a graph that has no node of this name yet, and no edges that are named
like those that begin there, the internet is one node more, with one edge to every exposed node.
-/

namespace AssetAtlas

namespace Internet

/-! ## Names -/

theorem id_edge (target : String) : (edge target).id = "internet->" ++ target := rfl

theorem beginsWith_id_edge (target : String) :
    Text.beginsWith (edge target).id "internet->" = true := by
  rw [Text.beginsWith, id_edge, String.toList_append, List.isPrefixOf_iff_prefix]
  exact List.prefix_append _ _

theorem id_edge_inj {target other : String} :
    (edge target).id = (edge other).id ↔ target = other := by
  rw [id_edge, id_edge, String.append_right_inj]

/-! ## Edges and the node -/

theorem foldl_connect_of_fresh {targets : List String} (h : targets.Nodup) {edges : List Edge}
    (hfresh : ∀ target ∈ targets, (edge target).id ∉ edges.map (·.id)) :
    targets.foldl connect edges = edges ++ targets.map edge := by
  induction targets generalizing edges with
  | nil => exact (List.append_nil edges).symm
  | cons target targets ih =>
      obtain ⟨htarget, htargets⟩ := List.nodup_cons.mp h
      obtain ⟨hfirst, hfresh⟩ := List.forall_mem_cons.mp hfresh
      have hconnect : connect edges target = edges ++ [edge target] := by
        unfold connect
        exact if_neg (by simpa using hfirst)
      rw [List.foldl_cons, hconnect, ih htargets, List.append_assoc]
      · rfl
      · -- the new edge has a name of its own
        intro other hother hmem
        rw [List.map_append, List.map_singleton, List.mem_append, List.mem_singleton,
          id_edge_inj] at hmem
        rcases hmem with hmem | rfl
        · exact hfresh other hother hmem
        · exact htarget hother

theorem record_of_not_mem (connections : Nat) {nodes : List Node}
    (h : nodeId ∉ nodes.map (·.id)) : record connections nodes = nodes ++ [node connections] := by
  induction nodes with
  | nil => rfl
  | cons n nodes ih =>
      rw [List.map_cons, List.mem_cons, not_or] at h
      obtain ⟨hfirst, hrest⟩ := h
      rw [record, if_neg (by simpa using Ne.symm hfirst), ih hrest, List.cons_append]

/-- A graph in which the internet has no part: no node is called so, and no edge is named as if it began
there. -/
structure Absent (g : Graph) : Prop where
  id_not_mem : "internet" ∉ g.ids
  edgeIds_other : ∀ id ∈ g.edgeIds, Text.beginsWith id "internet->" = false

theorem Absent.exposedIds_eq {g : Graph} (h : Absent g) :
    g.exposedIds = (g.nodes.filter (·.isExposed)).map (·.id) := by
  refine congrArg (List.map Node.id) (List.filter_congr fun n hn => ?_)
  have hother : n.id ≠ nodeId := by
    intro hid
    exact h.id_not_mem (List.mem_map.mpr ⟨n, hn, hid⟩)
  rw [bne_iff_ne.mpr hother, Bool.true_and]

/-- A graph is joined by a node for the internet and by edges that lead from it to every exposed node
and are counted there. -/
structure Joins (g g' : Graph) (internet : Node) (edges : List Edge) : Prop where
  nodes_eq : g'.nodes = g.nodes ++ [internet]
  edges_eq : g'.edges = g.edges ++ edges
  id_eq : internet.id = "internet"
  edgeIds_eq : edges.map (·.id) = (g.nodes.filter (·.isExposed)).map ("internet->" ++ ·.id)
  source_eq : ∀ e ∈ edges, e.source = internet.id
  kind_eq : ∀ e ∈ edges, e.kind = "internet_access"
  targets_eq : edges.map (·.target) = (g.nodes.filter (·.isExposed)).map (·.id)
  count_eq : internet.properties.find? "publicConnections" = some (.ofNat edges.length)

theorem joins_withInternet {g : Graph} (hids : g.ids.Nodup) (habsent : Absent g)
    (hexposed : ∃ n ∈ g.nodes, n.isExposed = true) :
    Joins g g.withInternet (node g.exposedIds.length) (g.exposedIds.map edge) := by
  have htargets := habsent.exposedIds_eq
  have hsome : ¬ g.exposedIds.isEmpty = true := by
    obtain ⟨n, hn, hopen⟩ := hexposed
    have hmem : n.id ∈ g.exposedIds :=
      htargets ▸ List.mem_map_of_mem (List.mem_filter.mpr ⟨hn, hopen⟩)
    rw [List.isEmpty_iff]
    exact List.ne_nil_of_mem hmem
  have hgraph : g.withInternet =
      { nodes := record g.exposedIds.length g.nodes
        edges := g.exposedIds.foldl connect g.edges } := if_neg hsome
  have hnodup : g.exposedIds.Nodup := hids.sublist (List.filter_sublist.map _)
  have hfresh : ∀ target ∈ g.exposedIds, (edge target).id ∉ g.edges.map (·.id) := by
    intro target _ hmem
    have hother := habsent.edgeIds_other _ hmem
    rw [beginsWith_id_edge] at hother
    exact nomatch hother
  constructor
  · rw [hgraph]
    exact record_of_not_mem _ habsent.id_not_mem
  · rw [hgraph]
    exact foldl_connect_of_fresh hnodup hfresh
  · rfl
  · rw [htargets, List.map_map, List.map_map]
    rfl
  · intro e he
    obtain ⟨target, -, rfl⟩ := List.mem_map.mp he
    rfl
  · intro e he
    obtain ⟨target, -, rfl⟩ := List.mem_map.mp he
    rfl
  · rw [← htargets, List.map_map]
    exact List.map_id _
  · rw [List.length_map]
    exact (Dictionary.find?_insert _ _ _ _).trans (if_pos rfl)

/-- The internet is connected to the exposed nodes and to nothing else. Where nothing is exposed it
has no place in the graph. -/
theorem connects_exposed {g : Graph} (hids : g.ids.Nodup) (habsent : Absent g) :
    ((∀ n ∈ g.nodes, n.isExposed = false) → g.withInternet = g) ∧
      ((∃ n ∈ g.nodes, n.isExposed = true) →
        ∃ internet edges, Joins g g.withInternet internet edges) := by
  constructor
  · intro hclosed
    have hnone : g.exposedIds.isEmpty = true := by
      rw [habsent.exposedIds_eq, List.isEmpty_iff, List.map_eq_nil_iff, List.filter_eq_nil_iff]
      exact fun n hn => Bool.not_eq_true _ ▸ hclosed n hn
    exact if_pos hnone
  · exact fun hexposed => ⟨_, _, joins_withInternet hids habsent hexposed⟩

def partlyOpen : Graph :=
  let asset (id label : String) (properties : List (String × Json)) : Node :=
    { id, label := id, kind := label, rawLabel := label, labels := [label],
      properties := .ofList properties }
  { nodes := [asset "3" "aws_s3_bucket" [("bucket_policy_is_public", .string "True")],
      asset "2" "aws_ec2_instance" [("public_dns_name", .string " ")],
      asset "1" "AWS_EC2_Instance" [("public_ip_address", .string "3.3.3.3")]]
    edges := [.plain "internet-1" "1" "3" "uses"] }

theorem connects_exposed_partlyOpen :
    partlyOpen.ids.Nodup ∧ Absent partlyOpen ∧ (∃ n ∈ partlyOpen.nodes, n.isExposed = true) ∧
      ∃ internet edges, Joins partlyOpen partlyOpen.withInternet internet edges ∧
        edges.map (·.target) = ["3", "1"] := by
  have hids : partlyOpen.ids.Nodup := by decide
  have habsent : Absent partlyOpen := ⟨by decide, by decide⟩
  have hexposed : ∃ n ∈ partlyOpen.nodes, n.isExposed = true := by decide +kernel
  obtain ⟨internet, edges, hjoins⟩ := (connects_exposed hids habsent).2 hexposed
  have htargets : edges.map (·.target) = ["3", "1"] :=
    hjoins.targets_eq.trans (by decide +kernel)
  exact ⟨hids, habsent, hexposed, internet, edges, hjoins, htargets⟩

end Internet

end AssetAtlas
