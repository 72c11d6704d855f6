import Mathlib.Data.List.Nodup
import AssetAtlas.Loading.Loader
import AssetAtlas.Proofs.Record.Identifier

/-!
Graphs that hold together: no two nodes and no two edges share an identifier, and every edge ends at
nodes of the graph. Every step that builds a graph keeps this up, so it holds of every graph that is
published, whatever rows the store sends.

Both stages change a graph in the same two ways. The identifiers of the nodes stay or get one more
at the end, and an edge between known nodes is appended unless there is an edge of its name.
-/

namespace AssetAtlas

def addId (ids : List String) (id : String) : List String :=
  if id ∈ ids then ids else ids ++ [id]

theorem mem_addId {ids : List String} {id other : String} :
    other ∈ addId ids id ↔ other ∈ ids ∨ other = id := by
  unfold addId
  split
  · next hid =>
      constructor
      · exact .inl
      · rintro (hother | rfl)
        · exact hother
        · exact hid
  · simp

theorem addId_cons_of_ne {id other : String} (h : other ≠ id) (ids : List String) :
    addId (other :: ids) id = other :: addId ids id := by
  by_cases hmem : id ∈ ids <;> simp [addId, hmem, h.symm]

theorem nodup_addId {ids : List String} (h : ids.Nodup) (id : String) : (addId ids id).Nodup := by
  unfold addId
  split
  · exact h
  · next hid =>
      rw [← List.concat_eq_append]
      exact .concat hid h

namespace Graph

def ids (g : Graph) : List String :=
  g.nodes.map (·.id)

def edgeIds (g : Graph) : List String :=
  g.edges.map (·.id)

/-- Identifiers name one thing each, and edges end at nodes of the graph. -/
structure WellFormed (g : Graph) : Prop where
  ids_nodup : g.ids.Nodup
  ids_ne_empty : ∀ id ∈ g.ids, id ≠ ""
  edgeIds_nodup : g.edgeIds.Nodup
  ends_mem : ∀ e ∈ g.edges, e.source ∈ g.ids ∧ e.target ∈ g.ids

theorem hasNode_iff (g : Graph) (id : String) : g.hasNode id = true ↔ id ∈ g.ids := by
  simp [hasNode, ids]

theorem danglingEdges_eq_nil_iff (g : Graph) :
    g.danglingEdges = [] ↔ ∀ e ∈ g.edges, e.source ∈ g.ids ∧ e.target ∈ g.ids := by
  simp [danglingEdges, List.filter_eq_nil_iff, hasNode_iff]

namespace WellFormed

theorem empty : WellFormed {} where
  ids_nodup := List.nodup_nil
  ids_ne_empty := List.forall_mem_nil _
  edgeIds_nodup := List.nodup_nil
  ends_mem := List.forall_mem_nil _

theorem withNodes {g : Graph} (h : g.WellFormed) {id : String} (hid : id ≠ "") {nodes : List Node}
    (hnodes : nodes.map (·.id) = addId g.ids id) : WellFormed { g with nodes } where
  ids_nodup := by
    rw [ids, hnodes]
    exact nodup_addId h.ids_nodup id
  ids_ne_empty := by
    intro other hother
    rw [ids, hnodes, mem_addId] at hother
    rcases hother with hother | rfl
    · exact h.ids_ne_empty other hother
    · exact hid
  edgeIds_nodup := h.edgeIds_nodup
  ends_mem := by
    intro e he
    obtain ⟨hsource, htarget⟩ := h.ends_mem e he
    rw [ids, hnodes]
    exact ⟨mem_addId.mpr (.inl hsource), mem_addId.mpr (.inl htarget)⟩

theorem addEdge {g : Graph} (h : g.WellFormed) {e : Edge} (hsource : e.source ∈ g.ids)
    (htarget : e.target ∈ g.ids) : (Assembly.addEdge g e).WellFormed := by
  unfold Assembly.addEdge
  split
  · exact h
  · next hnew =>
      have hfresh : e.id ∉ g.edgeIds := by simpa [edgeIds] using hnew
      refine ⟨h.ids_nodup, h.ids_ne_empty, ?_, ?_⟩
      · rw [edgeIds, List.map_append, List.map_singleton, ← List.concat_eq_append]
        exact .concat hfresh h.edgeIds_nodup
      · intro f hf
        rcases List.mem_append.mp hf with hf | hf
        · exact h.ends_mem f hf
        · rw [List.mem_singleton.mp hf]
          exact ⟨hsource, htarget⟩

end WellFormed

end Graph

namespace Assembly

theorem ids_observe (nodes : List Node) (id : String) (labels : List String)
    (c : Classification) :
    (observe nodes id labels c).map (·.id) = addId (nodes.map (·.id)) id := by
  induction nodes with
  | nil => simp [observe, firstObservation, addId]
  | cons n rest ih =>
      by_cases hid : n.id = id
      · simp [observe, addId, hid]
      · simp [observe, addId_cons_of_ne hid, hid, ih]

theorem wellFormed_addNode (row : Nat) {a : Assembly} (h : a.graph.WellFormed) (n : RawNode) :
    (addNode row a n).graph.WellFormed := by
  unfold addNode
  split
  · exact h
  · next id hid => exact h.withNodes (identifier?_ne_empty hid) (ids_observe _ id _ _)

theorem wellFormed_addLink (row : Nat) {a : Assembly} (h : a.graph.WellFormed) (l : RawLink) :
    (addLink row a l).graph.WellFormed := by
  unfold addLink
  split
  · exact h
  · next source target _ =>
      split
      · next hends =>
          obtain ⟨hsource, htarget⟩ := (Bool.and_eq_true _ _).mp hends
          have hsource := (a.graph.hasNode_iff _).mp hsource
          have htarget := (a.graph.hasNode_iff _).mp htarget
          dsimp only
          split
          · exact h.addEdge hsource htarget
          · exact h.addEdge hsource htarget
      · exact h

theorem wellFormed_foldl {α : Type} {step : Assembly → α → Assembly}
    (hstep : ∀ a x, a.graph.WellFormed → (step a x).graph.WellFormed) (xs : List α) {a : Assembly}
    (h : a.graph.WellFormed) : (xs.foldl step a).graph.WellFormed := by
  induction xs generalizing a with
  | nil => exact h
  | cons x xs ih => exact ih (hstep a x h)

theorem wellFormed_addRow {a : Assembly} (h : a.graph.WellFormed) (row : Row × Nat) :
    (addRow a row).graph.WellFormed := by
  unfold addRow
  dsimp only
  split
  · exact h
  · apply wellFormed_foldl fun _ l ha => wellFormed_addLink _ ha l
    apply wellFormed_foldl fun _ n ha => wellFormed_addNode _ ha n
    exact h

theorem wellFormed_ofRows (rows : List Row) : (ofRows rows).graph.WellFormed :=
  wellFormed_foldl (fun _ row ha => wellFormed_addRow ha row) rows.zipIdx .empty

end Assembly

namespace Internet

theorem ids_record (connections : Nat) (nodes : List Node) :
    (record connections nodes).map (·.id) = addId (nodes.map (·.id)) nodeId := by
  induction nodes with
  | nil => simp [record, node, addId]
  | cons n rest ih =>
      by_cases hid : n.id = nodeId
      · simp [record, addId, hid]
      · simp [record, addId_cons_of_ne hid, hid, ih]

theorem wellFormed_connect {nodes : List Node} {edges : List Edge} {targets : List String}
    (h : Graph.WellFormed ⟨nodes, edges⟩) (hinternet : nodeId ∈ nodes.map (·.id))
    (htargets : ∀ target ∈ targets, target ∈ nodes.map (·.id)) :
    Graph.WellFormed ⟨nodes, targets.foldl connect edges⟩ := by
  induction targets generalizing edges with
  | nil => exact h
  | cons target targets ih =>
      obtain ⟨htarget, htargets⟩ := List.forall_mem_cons.mp htargets
      have hedge : Graph.WellFormed (Assembly.addEdge ⟨nodes, edges⟩ (edge target)) :=
        h.addEdge hinternet htarget
      have hgraph : Assembly.addEdge ⟨nodes, edges⟩ (edge target) =
          ⟨nodes, connect edges target⟩ := by
        unfold Assembly.addEdge connect
        split <;> rfl
      rw [hgraph] at hedge
      exact ih hedge htargets

end Internet

theorem Graph.WellFormed.withInternet {g : Graph} (h : g.WellFormed) :
    g.withInternet.WellFormed := by
  have hexposed : ∀ target ∈ g.exposedIds, target ∈ g.ids := by
    intro target htarget
    obtain ⟨n, hn, rfl⟩ := List.mem_map.mp htarget
    exact List.mem_map_of_mem (List.mem_filter.mp hn).1
  unfold Graph.withInternet
  dsimp only
  split
  · exact h
  · have hids := Internet.ids_record g.exposedIds.length g.nodes
    have hrecord := h.withNodes (by decide) hids
    apply Internet.wellFormed_connect hrecord
    · rw [hids]
      exact mem_addId.mpr (.inr rfl)
    · intro target htarget
      rw [hids]
      exact mem_addId.mpr (.inl (hexposed target htarget))

theorem Inquiry.wellFormed_graph (i : Inquiry) (rows : List Row) : (i.graph rows).1.WellFormed := by
  have hrows : (normalize rows).1.WellFormed := Assembly.wellFormed_ofRows rows
  unfold Inquiry.graph
  dsimp only
  split
  · exact hrows.withInternet
  · exact hrows

/-- Whatever rows the store sends, the graph that is made of them is well formed, with or without
the internet, and no edge lacks an end. -/
theorem Inquiry.graph_holds_together (i : Inquiry) (rows : List Row) :
    (i.graph rows).1.WellFormed ∧ (i.graph rows).1.danglingEdges = [] := by
  have hgraph := i.wellFormed_graph rows
  exact ⟨hgraph, (Graph.danglingEdges_eq_nil_iff _).mpr hgraph.ends_mem⟩

end AssetAtlas
