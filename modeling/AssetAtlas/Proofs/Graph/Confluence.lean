import Mathlib.Data.List.Induction
import AssetAtlas.Proofs.Graph.Steps

/-!
The order of rows and their repetitions do not matter when the store is consistent: everything it
says twice it says in the same way, its relationships have identifiers, and each row holds the nodes
of its relationship. Then what is in the graph can be read off the rows one by one.

Both halves rest on the same observation. An item that is offered to the graph again finds either
nothing of its name or itself, so offering it adds it and changes nothing else.
-/

namespace AssetAtlas

theorem RawNode.classify_congr {n n' : RawNode} (hid : n.id? = n'.id?)
    (hlabels : n.labels = n'.labels) (hproperties : n.properties = n'.properties) :
    n.classify = n'.classify := by
  obtain ⟨id, labels, properties⟩ := n
  obtain ⟨id', labels', properties'⟩ := n'
  obtain rfl : labels = labels' := hlabels
  obtain rfl : properties = properties' := hproperties
  have hname : fallbackName ⟨id, labels, properties⟩ = fallbackName ⟨id', labels, properties⟩ := by
    rw [fallbackName, hid]
    rfl
  have hlist (key : String) :
      listFinding ⟨id, labels, properties⟩ key = listFinding ⟨id', labels, properties⟩ key := by
    unfold listFinding
    rw [hname]
  have hcounts :
      imageCounts ⟨id, labels, properties⟩ = imageCounts ⟨id', labels, properties⟩ := by
    unfold imageCounts
    rw [hname]
  have hverdict (rule : NodeRule) :
      rule.verdict ⟨id, labels, properties⟩ = rule.verdict ⟨id', labels, properties⟩ := by
    cases rule with
    | knownExploited =>
        unfold NodeRule.verdict knownExploitedVerdict
        rw [hlist, hname]
        rfl
    | complianceSummary =>
        unfold NodeRule.verdict complianceVerdict
        rw [funext hlist]
        rfl
    | containerImage =>
        unfold NodeRule.verdict imageVerdict
        rw [hcounts, hname]
        rfl
    | vulnerability => rfl
    | cloudResource | generic =>
        unfold NodeRule.verdict resourceVerdict
        rw [hname]
        rfl
  unfold RawNode.classify
  rw [funext hverdict]
  rfl

/-- The relationship of a row lies between nodes of the row. -/
def Row.HoldsEnds (row : Row) : Prop :=
  ∀ l, row.r = some l → ∀ source target, l.endpoints? = some (source, target) →
    (∃ n ∈ row.nodes, n.id? = some source) ∧ ∃ n ∈ row.nodes, n.id? = some target

namespace Assembly

def shownNode? (n : RawNode) : Option Node :=
  n.id?.map fun id => firstObservation id n.labels n.classify

def shownEdge? (l : RawLink) : Option Edge := do
  let (source, target) ← l.endpoints?
  return edgeOf l source target (← l.id?)

/-- The nodes have one description each. -/
def NodesAgree (ns : List RawNode) : Prop :=
  ∀ n ∈ ns, ∀ n' ∈ ns, ∀ id, n.id? = some id → n'.id? = some id →
    n.labels = n'.labels ∧ n.properties = n'.properties

/-- The relationships have identifiers, and one description for each of them. -/
structure LinksAgree (ls : List RawLink) : Prop where
  named : ∀ l ∈ ls, l.id? ≠ none
  agree : ∀ l ∈ ls, ∀ l' ∈ ls, ∀ id, l.id? = some id → l'.id? = some id →
    l.endpoints? = l'.endpoints? ∧ l.kind = l'.kind ∧ l.properties = l'.properties

/-- The store does not contradict itself, and its rows are complete. -/
structure Consistent (rows : List Row) : Prop where
  nodes : NodesAgree (rows.flatMap Row.nodes)
  links : LinksAgree (rows.flatMap (·.r.toList))
  ends : ∀ row ∈ rows, row.HoldsEnds

theorem Consistent.mono {rows rows' : List Row} (h : Consistent rows) (hsub : rows' ⊆ rows) :
    Consistent rows' := by
  have hparts {α : Type} (part : Row → List α) : rows'.flatMap part ⊆ rows.flatMap part := by
    intro x hx
    obtain ⟨row, hrow, hx⟩ := List.mem_flatMap.mp hx
    exact List.mem_flatMap.mpr ⟨row, hsub hrow, hx⟩
  refine ⟨?_, ⟨?_, ?_⟩, fun row hrow => h.ends row (hsub hrow)⟩
  · intro n hn n' hn'
    exact h.nodes n (hparts _ hn) n' (hparts _ hn')
  · intro l hl
    exact h.links.named l (hparts _ hl)
  · intro l hl l' hl'
    exact h.links.agree l (hparts _ hl) l' (hparts _ hl')

/-! ## Nodes -/

theorem refresh_self (c : Classification) : refresh c.properties c = c.properties := by
  have hfold (entries : List (String × Json)) (hsub : entries ⊆ c.properties.entries) :
      entries.foldl (fun p e =>
        if c.placeholders.contains e.1 && p.contains e.1 then p else p.insert e.1 e.2)
          c.properties = c.properties := by
    induction entries with
    | nil => rfl
    | cons e entries ih =>
        obtain ⟨he, hentries⟩ := List.cons_subset.mp hsub
        rw [List.foldl_cons, Dictionary.insert_of_mem he, ite_self]
        exact ih hentries
  exact hfold _ (List.Subset.refl _)

theorem mem_observe {nodes : List Node} {id : String} {labels : List String} {c : Classification}
    (hsame : ∀ n ∈ nodes, n.id = id → n = firstObservation id labels c) (node : Node) :
    node ∈ observe nodes id labels c ↔ node ∈ nodes ∨ node = firstObservation id labels c := by
  induction nodes with
  | nil => simp [observe]
  | cons n rest ih =>
      obtain ⟨hn, hrest⟩ := List.forall_mem_cons.mp hsame
      by_cases hid : n.id = id
      · have hkept : { n with properties := refresh n.properties c } = n := by
          rw [hn hid]
          simp only [firstObservation, refresh_self]
        rw [observe, if_pos (beq_iff_eq.mpr hid), hkept, ← hn hid, List.mem_cons]
        constructor
        · exact .inl
        · rintro (h | rfl)
          · exact h
          · exact .inl rfl
      · rw [observe, if_neg (by simpa using hid), List.mem_cons, ih hrest, List.mem_cons, or_assoc]

def ShowsNodes (ns : List RawNode) (nodes : List Node) : Prop :=
  ∀ node, node ∈ nodes ↔ ∃ n ∈ ns, shownNode? n = some node

theorem firstObservation_congr {ns : List RawNode} (hagree : NodesAgree ns) {n n' : RawNode}
    (hn : n ∈ ns) (hn' : n' ∈ ns) {id : String} (hid : n.id? = some id) (hid' : n'.id? = some id) :
    firstObservation id n.labels n.classify = firstObservation id n'.labels n'.classify := by
  obtain ⟨hlabels, hproperties⟩ := hagree n hn n' hn' id hid hid'
  rw [RawNode.classify_congr (hid.trans hid'.symm) hlabels hproperties, hlabels]

theorem showsNodes_addNode {ns : List RawNode} {n : RawNode} (hagree : NodesAgree (ns ++ [n]))
    {a : Assembly} (h : ShowsNodes ns a.graph.nodes) (row : Nat) :
    ShowsNodes (ns ++ [n]) (addNode row a n).graph.nodes := by
  intro node
  simp only [List.mem_append, List.mem_singleton, or_and_right, exists_or, exists_eq_left]
  rw [← h node]
  cases hid : n.id? with
  | none => simp [addNode, shownNode?, hid, report]
  | some id =>
      -- whatever showed a node of this name before agrees with `n`, so it showed the same node
      have hsame : ∀ other ∈ a.graph.nodes, other.id = id →
          other = firstObservation id n.labels n.classify := by
        intro other hother hotherId
        obtain ⟨n', hn', hshown⟩ := (h other).mp hother
        obtain ⟨id', hid', rfl⟩ := Option.map_eq_some_iff.mp hshown
        obtain rfl : id' = id := hotherId
        exact firstObservation_congr hagree (List.mem_append_left _ hn')
          (List.mem_append_right _ (List.mem_singleton.mpr rfl)) hid' hid
      have hnodes : (addNode row a n).graph.nodes =
          observe a.graph.nodes id n.labels n.classify := by
        rw [addNode, hid]
      rw [hnodes, mem_observe hsame, shownNode?, hid, Option.map_some, Option.some.injEq]
      exact or_congr_right eq_comm

theorem showsNodes_foldl (row : Nat) (more : List RawNode) {ns : List RawNode}
    (hagree : NodesAgree (ns ++ more)) {a : Assembly} (h : ShowsNodes ns a.graph.nodes) :
    ShowsNodes (ns ++ more) (more.foldl (addNode row) a).graph.nodes := by
  induction more generalizing ns a with
  | nil =>
      rw [List.append_nil]
      exact h
  | cons n more ih =>
      rw [List.append_cons] at hagree ⊢
      have hfirst : NodesAgree (ns ++ [n]) := by
        intro n₁ h₁ n₂ h₂
        exact hagree n₁ (List.mem_append_left _ h₁) n₂ (List.mem_append_left _ h₂)
      exact ih hagree (showsNodes_addNode hfirst h row)

/-! ## Edges -/

theorem mem_addEdge {g : Graph} {e : Edge} (hsame : ∀ f ∈ g.edges, f.id = e.id → f = e)
    (f : Edge) : f ∈ (addEdge g e).edges ↔ f ∈ g.edges ∨ f = e := by
  constructor
  · exact eq_or_mem_of_mem_addEdge
  · rintro (hf | rfl)
    · exact edges_subset_addEdge g e hf
    · by_cases hmem : f.id ∈ g.edgeIds
      · obtain ⟨f', hf', hid⟩ := List.mem_map.mp hmem
        rw [hsame f' hf' hid] at hf'
        exact edges_subset_addEdge g f hf'
      · exact mem_addEdge_of_fresh hmem

def ShowsEdges (ls : List RawLink) (edges : List Edge) : Prop :=
  ∀ e, e ∈ edges ↔ ∃ l ∈ ls, shownEdge? l = some e

theorem shownEdge?_eq_some_iff {l : RawLink} {e : Edge} :
    shownEdge? l = some e ↔ ∃ source target id,
      l.endpoints? = some (source, target) ∧ l.id? = some id ∧ e = edgeOf l source target id := by
  simp only [shownEdge?, Option.bind_eq_bind, Option.bind_eq_some_iff, Option.pure_def,
    Option.some.injEq, Prod.exists]
  constructor
  · rintro ⟨source, target, hends, id, hid, rfl⟩
    exact ⟨source, target, id, hends, hid, rfl⟩
  · rintro ⟨source, target, id, hends, hid, rfl⟩
    exact ⟨source, target, hends, id, hid, rfl⟩

theorem ShowsEdges.append_of_none {ls more : List RawLink} {edges : List Edge}
    (h : ShowsEdges ls edges) (hnone : ∀ l ∈ more, shownEdge? l = none) :
    ShowsEdges (ls ++ more) edges := by
  intro e
  simp only [List.mem_append, or_and_right, exists_or]
  rw [h e, or_iff_left]
  rintro ⟨l, hl, hshown⟩
  rw [hnone l hl] at hshown
  exact nomatch hshown

theorem showsEdges_addLink {ls : List RawLink} {l : RawLink} (hagree : LinksAgree (ls ++ [l]))
    {a : Assembly} (h : ShowsEdges ls a.graph.edges)
    (hknown : ∀ source target, l.endpoints? = some (source, target) →
      source ∈ a.graph.ids ∧ target ∈ a.graph.ids) (row : Nat) :
    ShowsEdges (ls ++ [l]) (addLink row a l).graph.edges := by
  have hlast : l ∈ ls ++ [l] := List.mem_append_right _ (List.mem_singleton.mpr rfl)
  obtain ⟨hunknown, d, -, hadd⟩ | ⟨source, target, hends, hadd⟩ := addLink_cases row a l
  · -- the endpoints are known if there are any
    have hnone : l.endpoints? = none := by
      rw [Option.eq_none_iff_forall_ne_some]
      rintro ⟨source, target⟩ hsome
      exact hunknown source target hsome (hknown source target hsome)
    rw [hadd]
    refine h.append_of_none (List.forall_mem_singleton.mpr ?_)
    rw [shownEdge?, hnone]
    rfl
  · obtain ⟨id, hid⟩ := Option.ne_none_iff_exists'.mp (hagree.named l hlast)
    have hname : a.nameOf l = id := by
      rw [nameOf, hid, Option.getD_some]
    have hsame : ∀ f ∈ a.graph.edges, f.id = (edgeOf l source target id).id →
        f = edgeOf l source target id := by
      intro f hf hfid
      obtain ⟨l', hl', hshown⟩ := (h f).mp hf
      obtain ⟨source', target', id', hends', hid', rfl⟩ := shownEdge?_eq_some_iff.mp hshown
      obtain rfl : id' = id := hfid
      obtain ⟨hsameEnds, hkind, hproperties⟩ :=
        hagree.agree l' (List.mem_append_left _ hl') l hlast id' hid' hid
      obtain ⟨rfl, rfl⟩ := Prod.mk.inj
        (Option.some.inj (hends'.symm.trans (hsameEnds.trans hends)))
      rw [edgeOf, edgeOf, hkind, hproperties]
    have hedges : (addLink row a l).graph.edges =
        (addEdge a.graph (edgeOf l source target id)).edges := by
      rw [hadd, hname]
    have hshown : shownEdge? l = some (edgeOf l source target id) :=
      shownEdge?_eq_some_iff.mpr ⟨source, target, id, hends, hid, rfl⟩
    intro e
    simp only [List.mem_append, List.mem_singleton, or_and_right, exists_or, exists_eq_left]
    rw [← h e, hedges, mem_addEdge hsame, hshown, Option.some.injEq]
    exact or_congr_right eq_comm

/-! ## Rows -/

theorem showsEdges_addRow {ls : List RawLink} {row : Row} (hagree : LinksAgree (ls ++ row.r.toList))
    (hends : row.HoldsEnds) {a : Assembly} (h : ShowsEdges ls a.graph.edges) (i : Nat) :
    ShowsEdges (ls ++ row.r.toList) (addRow a (row, i)).graph.edges := by
  by_cases hnodes : row.nodes = []
  · rw [addRow_of_nodes_eq_nil hnodes]
    refine h.append_of_none fun l hl => ?_
    -- a relationship without any node cannot have endpoints among the nodes of its row
    rw [Option.eq_none_iff_forall_ne_some]
    intro e hshown
    obtain ⟨source, target, -, hsome, -, -⟩ := shownEdge?_eq_some_iff.mp hshown
    obtain ⟨⟨n, hn, -⟩, -⟩ := hends l (Option.mem_toList.mp hl) source target hsome
    rw [hnodes] at hn
    exact nomatch hn
  · obtain ⟨hedges, -⟩ := foldl_addNode_edges i row.nodes a
    rw [← hedges] at h
    rw [addRow_of_nodes_ne_nil hnodes]
    cases hl : row.r with
    | none =>
        rw [Option.toList_none, List.append_nil]
        exact h
    | some l =>
        rw [hl] at hagree
        refine showsEdges_addLink hagree h ?_ i
        intro source target hsome
        obtain ⟨⟨n, hn, hid⟩, ⟨m, hm, hid'⟩⟩ := hends l hl source target hsome
        exact ⟨mem_ids_foldl i a hn hid, mem_ids_foldl i a hm hid'⟩

/-- The graph is the sum of what the rows show. -/
structure ShowsRows (rows : List Row) (a : Assembly) : Prop where
  nodes : ShowsNodes (rows.flatMap Row.nodes) a.graph.nodes
  edges : ShowsEdges (rows.flatMap (·.r.toList)) a.graph.edges

theorem ShowsRows.addRow {rows : List Row} {row : Row} (hconsistent : Consistent (rows ++ [row]))
    {a : Assembly} (h : ShowsRows rows a) (i : Nat) :
    ShowsRows (rows ++ [row]) (addRow a (row, i)) := by
  obtain ⟨hnodes, hlinks, hends⟩ := hconsistent
  rw [List.flatMap_append, List.flatMap_singleton] at hnodes hlinks
  constructor
  · rw [List.flatMap_append, List.flatMap_singleton, nodes_addRow]
    exact showsNodes_foldl i row.nodes hnodes h.nodes
  · rw [List.flatMap_append, List.flatMap_singleton]
    have hlast : row ∈ rows ++ [row] := List.mem_append_right _ (List.mem_singleton.mpr rfl)
    exact showsEdges_addRow hlinks (hends row hlast) h.edges i

theorem showsRows_ofRows {rows : List Row} (h : Consistent rows) :
    ShowsRows rows (ofRows rows) := by
  induction rows using List.reverseRecOn with
  | nil => exact ⟨fun _ => by simp [ofRows], fun _ => by simp [ofRows]⟩
  | append_singleton rows row ih =>
      rw [ofRows_concat]
      exact (ih (h.mono (List.subset_append_left _ _))).addRow h rows.length

/-- Rows that are the same up to order and repetition make the same nodes and the same edges. -/
theorem normalize_perm {rows rows' : List Row} (hsame : ∀ row, row ∈ rows ↔ row ∈ rows')
    (h : Consistent rows) :
    (normalize rows).1.nodes.Perm (normalize rows').1.nodes ∧
      (normalize rows).1.edges.Perm (normalize rows').1.edges := by
  have h' : Consistent rows' := h.mono fun row hrow => (hsame row).mpr hrow
  have hshows := showsRows_ofRows h
  have hshows' := showsRows_ofRows h'
  have hwell := wellFormed_ofRows rows
  have hwell' := wellFormed_ofRows rows'
  constructor
  · apply (List.perm_ext_iff_of_nodup hwell.ids_nodup.of_map hwell'.ids_nodup.of_map).mpr
    intro node
    refine (hshows.nodes node).trans (Iff.trans ?_ (hshows'.nodes node).symm)
    simp only [List.mem_flatMap, hsame]
  · apply (List.perm_ext_iff_of_nodup hwell.edgeIds_nodup.of_map hwell'.edgeIds_nodup.of_map).mpr
    intro e
    refine (hshows.edges e).trans (Iff.trans ?_ (hshows'.edges e).symm)
    simp only [List.mem_flatMap, hsame]

/-- A vulnerability of which nothing is known, so that placeholders are shown. -/
def bareVulnerability : RawNode :=
  { id := .string "2", labels := ["Vulnerability"] }

def vulnerableRow : Row :=
  .ofTriple { id := .string "1", labels := ["Server"] }
    { id := .string "r", kind := "has", start_node := some (.string "1"),
      end_node := some (.string "2") }
    bareVulnerability

theorem consistent_vulnerableRow : Consistent [.ofNode bareVulnerability, vulnerableRow] where
  nodes := by
    intro n hn n' hn' id hid hid'
    replace hn : n ∈ [bareVulnerability, { id := .string "1", labels := ["Server"] },
      bareVulnerability] := hn
    replace hn' : n' ∈ [bareVulnerability, { id := .string "1", labels := ["Server"] },
      bareVulnerability] := hn'
    simp only [List.mem_cons, List.not_mem_nil, or_false] at hn hn'
    have hids := hid.trans hid'.symm
    rcases hn with rfl | rfl | rfl <;> rcases hn' with rfl | rfl | rfl <;>
      first | exact ⟨rfl, rfl⟩ | exact absurd hids (by decide)
  links := by
    refine ⟨?_, ?_⟩
    · intro l hl
      obtain rfl := List.mem_singleton.mp hl
      decide
    · intro l hl l' hl' _ _ _
      obtain rfl := List.mem_singleton.mp hl
      obtain rfl := List.mem_singleton.mp hl'
      exact ⟨rfl, rfl, rfl⟩
  ends := by
    intro row hrow l hl source target hends
    rcases List.mem_cons.mp hrow with rfl | hrow
    · exact nomatch hl
    · obtain rfl := List.mem_singleton.mp hrow
      obtain rfl := Option.some.inj hl
      obtain ⟨rfl, rfl⟩ := Prod.mk.inj (Option.some.inj hends)
      exact ⟨⟨_, List.mem_cons_self, rfl⟩, ⟨_, List.mem_cons_of_mem _ List.mem_cons_self, rfl⟩⟩

theorem normalize_perm_repeated :
    let rows : List Row := [vulnerableRow, .ofNode bareVulnerability, vulnerableRow]
    let rows' : List Row := [.ofNode bareVulnerability, vulnerableRow]
    (∀ row, row ∈ rows ↔ row ∈ rows') ∧ Consistent rows ∧
      (normalize rows).1.nodes.Perm (normalize rows').1.nodes ∧
      (normalize rows).1.edges.Perm (normalize rows').1.edges := by
  intro rows rows'
  have hsame (row : Row) : row ∈ rows ↔ row ∈ rows' := by
    simp only [rows, rows', List.mem_cons, List.not_mem_nil, or_false]
    tauto
  have hrows : Consistent rows := consistent_vulnerableRow.mono fun row => (hsame row).mp
  exact ⟨hsame, hrows, normalize_perm hsame hrows⟩

end Assembly

end AssetAtlas
