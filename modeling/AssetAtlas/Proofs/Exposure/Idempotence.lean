import AssetAtlas.Proofs.Dictionary
import AssetAtlas.Proofs.Exposure.Connections

/-!
The internet is connected once and for all. Nothing is asked of the graph here: identifiers may
repeat, edges may lead nowhere or be named like those of the internet already, and several nodes may
stand for it. A graph stays as it is if and only if every exposed node has an edge of its name and
the first node for the internet says how many there are, and to connect a graph leads to such a
graph.
-/

namespace AssetAtlas

namespace Internet

/-! ## Edges -/

theorem id_mem_connect (edges : List Edge) (target : String) :
    (edge target).id ∈ (connect edges target).map (·.id) := by
  unfold connect
  split
  · next hnamed => simpa using hnamed
  · simp

theorem connect_of_mem {edges : List Edge} {target : String}
    (h : (edge target).id ∈ edges.map (·.id)) : connect edges target = edges := by
  unfold connect
  exact if_pos (by simpa using h)

theorem prefix_connect (edges : List Edge) (target : String) : edges <+: connect edges target := by
  unfold connect
  split
  · exact List.prefix_rfl
  · exact List.prefix_append _ _

theorem prefix_foldl_connect (targets : List String) (edges : List Edge) :
    edges <+: targets.foldl connect edges := by
  induction targets generalizing edges with
  | nil => exact List.prefix_rfl
  | cons target targets ih => exact (prefix_connect edges target).trans (ih _)

theorem id_mem_foldl_connect {targets : List String} {target : String} (h : target ∈ targets)
    (edges : List Edge) : (edge target).id ∈ (targets.foldl connect edges).map (·.id) := by
  induction targets generalizing edges with
  | nil => exact nomatch h
  | cons first targets ih =>
      rw [List.foldl_cons]
      rcases List.mem_cons.mp h with rfl | hrest
      · -- no later step takes the edge away
        have hkept := (prefix_foldl_connect targets (connect edges target)).map (·.id)
        exact hkept.subset (id_mem_connect edges target)
      · exact ih hrest _

theorem foldl_connect_eq_self_iff {targets : List String} {edges : List Edge} :
    targets.foldl connect edges = edges ↔
      ∀ target ∈ targets, (edge target).id ∈ edges.map (·.id) := by
  constructor
  · intro h target htarget
    rw [← h]
    exact id_mem_foldl_connect htarget edges
  · intro h
    induction targets with
    | nil => rfl
    | cons first targets ih =>
        obtain ⟨hfirst, hrest⟩ := List.forall_mem_cons.mp h
        rw [List.foldl_cons, connect_of_mem hfirst, ih hrest]

/-! ## The node -/

/-- The first node for the internet says how many nodes are reachable. -/
def Counts (nodes : List Node) (connections : Nat) : Prop :=
  ∃ n, nodes.find? (·.id == nodeId) = some n ∧
    n.properties.find? countKey = some (.ofNat connections)

theorem counts_record (connections : Nat) (nodes : List Node) :
    Counts (record connections nodes) connections := by
  have hcount (d : Properties) :
      (d.insert countKey (.ofNat connections)).find? countKey = some (.ofNat connections) := by
    rw [Dictionary.find?_insert, if_pos rfl]
  induction nodes with
  | nil => exact ⟨node connections, rfl, hcount _⟩
  | cons n nodes ih =>
      rw [record]
      split
      · next hid => exact ⟨_, List.find?_cons_of_pos hid, hcount _⟩
      · next hid =>
          obtain ⟨found, hfound, hsays⟩ := ih
          refine ⟨found, ?_, hsays⟩
          rw [List.find?_cons_of_neg (by simpa using hid)]
          exact hfound

theorem record_eq_self_iff {connections : Nat} {nodes : List Node} :
    record connections nodes = nodes ↔ Counts nodes connections := by
  constructor
  · intro h
    rw [← h]
    exact counts_record connections nodes
  · rintro ⟨found, hfound, hsays⟩
    induction nodes with
    | nil => exact nomatch hfound
    | cons n nodes ih =>
        rw [record]
        split
        · next hid =>
            rw [List.find?_cons_of_pos (by simpa using hid)] at hfound
            obtain rfl := Option.some.inj hfound
            rw [Dictionary.insert_of_mem (Dictionary.find?_eq_some_iff.mp hsays)]
        · next hid =>
            rw [List.find?_cons_of_neg (by simpa using hid)] at hfound
            rw [ih hfound]

theorem filter_record {p : Node → Bool} (hp : ∀ n : Node, n.id = nodeId → ¬ p n = true)
    (connections : Nat) (nodes : List Node) :
    (record connections nodes).filter p = nodes.filter p := by
  induction nodes with
  | nil => exact List.filter_cons_of_neg (hp (node connections) rfl)
  | cons n nodes ih =>
      rw [record]
      split
      · next hid =>
          -- neither what stood there nor what stands there now is listed
          have hid : n.id = nodeId := beq_iff_eq.mp hid
          rw [List.filter_cons_of_neg (hp n hid)]
          exact List.filter_cons_of_neg (hp _ hid)
      · rw [List.filter_cons, List.filter_cons, ih]

end Internet

namespace Graph

/-- The internet is connected to every exposed node, in name at least, and the first node that
stands for it says how many there are. Where nothing is exposed there need not be such a node. -/
structure Connected (g : Graph) : Prop where
  named : ∀ target ∈ g.exposedIds, "internet->" ++ target ∈ g.edges.map (·.id)
  counted : g.exposedIds ≠ [] → Internet.Counts g.nodes g.exposedIds.length

variable {g : Graph}

theorem withInternet_of_exposed (h : g.exposedIds ≠ []) :
    g.withInternet =
      { nodes := Internet.record g.exposedIds.length g.nodes
        edges := g.exposedIds.foldl Internet.connect g.edges } :=
  if_neg (by simpa using h)

theorem withInternet_of_closed (h : g.exposedIds = []) : g.withInternet = g :=
  if_pos (by simpa using h)

theorem exposedIds_withInternet (g : Graph) : g.withInternet.exposedIds = g.exposedIds := by
  by_cases h : g.exposedIds = []
  · rw [withInternet_of_closed h]
  · rw [withInternet_of_exposed h]
    refine congrArg (List.map Node.id) (Internet.filter_record (fun n hid => ?_) _ _)
    rw [hid, bne_self_eq_false, Bool.false_and]
    exact Bool.false_ne_true

theorem connected_withInternet (g : Graph) : g.withInternet.Connected := by
  rcases eq_or_ne g.exposedIds [] with h | h
  · rw [withInternet_of_closed h]
    refine ⟨fun target htarget => ?_, fun hsome => absurd h hsome⟩
    rw [h] at htarget
    exact nomatch htarget
  · constructor
    · intro target htarget
      rw [exposedIds_withInternet] at htarget
      rw [withInternet_of_exposed h]
      exact Internet.id_mem_foldl_connect htarget g.edges
    · intro _
      rw [exposedIds_withInternet, withInternet_of_exposed h]
      exact Internet.counts_record _ _

theorem withInternet_eq_self_iff : g.withInternet = g ↔ g.Connected := by
  constructor
  · intro h
    rw [← h]
    exact g.connected_withInternet
  · rintro ⟨hnamed, hcounted⟩
    rcases eq_or_ne g.exposedIds [] with h | h
    · exact withInternet_of_closed h
    · rw [withInternet_of_exposed h, Internet.record_eq_self_iff.mpr (hcounted h),
        Internet.foldl_connect_eq_self_iff.mpr hnamed]

/-- Whatever a graph looks like, it is connected after the internet is connected to it, and to do so
again changes nothing. -/
theorem withInternet_idempotent (g : Graph) :
    g.withInternet.Connected ∧ g.withInternet.withInternet = g.withInternet :=
  ⟨g.connected_withInternet, withInternet_eq_self_iff.mpr g.connected_withInternet⟩

end Graph

end AssetAtlas
