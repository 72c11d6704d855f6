import AssetAtlas.Proofs.Graph.WellFormed

/-!
The steps by which rows become a graph. An assembly only grows, so what one step puts into it is
still there at the end. `addLink_cases` says all that a step can do with a relationship, and
`addRow_of_nodes_eq_nil` and `addRow_of_nodes_ne_nil` what becomes of a row.
-/

namespace AssetAtlas

def Row.nodes (row : Row) : List RawNode :=
  row.n.toList ++ row.m.toList

def RowDefect.Concerns (l : RawLink) : RowDefect → Prop
  | .withoutNodes => True
  | .withoutId => False
  | .withoutEndpoints kind => kind = l.kind ∧ l.endpoints? = none
  | .unknownEndpoint kind source target => kind = l.kind ∧ l.endpoints? = some (source, target)

namespace Assembly

/-- The name of the relationship that is the `k`-th one without an identifier. -/
def numberedId (k : Nat) : String :=
  s!"edge-{k}"

theorem numberedId_injective {j k : Nat} (h : numberedId j = numberedId k) : j = k := by
  have hrepr : Nat.repr j = Nat.repr k := by
    simpa [numberedId] using h
  have hdigits : Nat.toDigits 10 j = Nat.toDigits 10 k := String.ofList_injective hrepr
  calc
    j = Nat.ofDigitChars 10 (Nat.toDigits 10 j) 0 :=
      (Nat.ofDigitChars_toDigits (by decide) (by decide)).symm
    _ = k := by
      rw [hdigits]
      exact Nat.ofDigitChars_toDigits (by decide) (by decide)

/-! ## Growth -/

/-- What is in an assembly stays in it. -/
structure Grows (a b : Assembly) : Prop where
  ids : a.graph.ids ⊆ b.graph.ids
  edges : a.graph.edges ⊆ b.graph.edges
  issues : a.issues ⊆ b.issues
  generated : a.generated ≤ b.generated

namespace Grows

theorem refl (a : Assembly) : Grows a a :=
  ⟨List.Subset.refl _, List.Subset.refl _, List.Subset.refl _, Nat.le_refl _⟩

theorem trans {a b c : Assembly} (hab : Grows a b) (hbc : Grows b c) : Grows a c :=
  ⟨List.Subset.trans hab.ids hbc.ids, List.Subset.trans hab.edges hbc.edges,
    List.Subset.trans hab.issues hbc.issues, Nat.le_trans hab.generated hbc.generated⟩

theorem report (a : Assembly) (issue : Issue) : Grows a (a.report issue) :=
  ⟨List.Subset.refl _, List.Subset.refl _, List.subset_append_left _ _, Nat.le_refl _⟩

end Grows

theorem grows_addNode (row : Nat) (a : Assembly) (n : RawNode) : Grows a (addNode row a n) := by
  unfold addNode
  split
  · exact .report a _
  · next id _ =>
      refine ⟨?_, List.Subset.refl _, List.subset_append_left _ _, Nat.le_refl _⟩
      intro other hother
      change other ∈ (observe a.graph.nodes id n.labels n.classify).map (·.id)
      rw [ids_observe]
      exact mem_addId.mpr (.inl hother)

theorem mem_ids_addNode (row : Nat) (a : Assembly) {n : RawNode} {id : String}
    (hid : n.id? = some id) : id ∈ (addNode row a n).graph.ids := by
  unfold addNode
  rw [hid]
  change id ∈ (observe a.graph.nodes id n.labels n.classify).map (·.id)
  rw [ids_observe]
  exact mem_addId.mpr (.inr rfl)

theorem mem_issues_addNode (row : Nat) (a : Assembly) {n : RawNode} (hid : n.id? = none) :
    .row row .withoutId ∈ (addNode row a n).issues := by
  unfold addNode
  rw [hid]
  exact List.mem_append_right _ (List.mem_singleton.mpr rfl)

/-! ## One relationship -/

def edgeOf (l : RawLink) (source target id : String) : Edge :=
  { Edge.plain id source target l.kind with properties := l.properties }

def nameOf (a : Assembly) (l : RawLink) : String :=
  l.id?.getD (numberedId (a.generated + 1))

/-- A relationship that does not lie between known nodes is reported, and nothing else changes; the
edge of any other is offered to the graph. -/
theorem addLink_cases (row : Nat) (a : Assembly) (l : RawLink) :
    ((∀ source target, l.endpoints? = some (source, target) →
        ¬(source ∈ a.graph.ids ∧ target ∈ a.graph.ids)) ∧
      ∃ d : RowDefect, d.Concerns l ∧ addLink row a l = a.report (.row row d)) ∨
    ∃ source target, l.endpoints? = some (source, target) ∧
      addLink row a l =
        { a with
          graph := addEdge a.graph (edgeOf l source target (a.nameOf l))
          generated := if l.id?.isNone then a.generated + 1 else a.generated } := by
  unfold addLink
  split
  · next hends =>
      refine .inl ⟨?_, .withoutEndpoints l.kind, ⟨rfl, hends⟩, rfl⟩
      intro source target hsome
      exact absurd (hends.symm.trans hsome) nofun
  · next source target hends =>
      split
      · refine .inr ⟨source, target, hends, ?_⟩
        dsimp only
        split
        · next id hid => simp [nameOf, hid, edgeOf]
        · next hid => simp [nameOf, hid, edgeOf, numberedId]
      · next hunknown =>
          refine .inl ⟨?_, .unknownEndpoint l.kind source target, ⟨rfl, hends⟩, rfl⟩
          intro source' target' hsome hknown
          obtain ⟨rfl, rfl⟩ := Prod.mk.inj (Option.some.inj (hends.symm.trans hsome))
          simp [Graph.hasNode_iff, hknown] at hunknown

theorem edges_prefix_addEdge (g : Graph) (e : Edge) : g.edges <+: (addEdge g e).edges := by
  unfold addEdge
  split
  · exact List.prefix_refl _
  · exact List.prefix_append _ _

theorem edges_subset_addEdge (g : Graph) (e : Edge) : g.edges ⊆ (addEdge g e).edges :=
  (edges_prefix_addEdge g e).subset

theorem mem_addEdge_of_fresh {g : Graph} {e : Edge} (h : e.id ∉ g.edgeIds) :
    e ∈ (addEdge g e).edges := by
  have hnew : ¬ g.edges.any (·.id == e.id) = true := by
    simpa [Graph.edgeIds] using h
  rw [addEdge, if_neg hnew]
  exact List.mem_append_right _ (List.mem_singleton.mpr rfl)

theorem eq_or_mem_of_mem_addEdge {g : Graph} {e f : Edge} (h : f ∈ (addEdge g e).edges) :
    f ∈ g.edges ∨ f = e := by
  unfold addEdge at h
  split at h
  · exact .inl h
  · exact (List.mem_append.mp h).imp_right List.mem_singleton.mp

theorem nodes_addEdge (g : Graph) (e : Edge) : (addEdge g e).nodes = g.nodes := by
  unfold addEdge
  split <;> rfl

theorem nodes_addLink (row : Nat) (a : Assembly) (l : RawLink) :
    (addLink row a l).graph.nodes = a.graph.nodes := by
  obtain ⟨-, d, -, hadd⟩ | ⟨source, target, -, hadd⟩ := addLink_cases row a l
  · rw [hadd]
    rfl
  · rw [hadd]
    exact nodes_addEdge _ _

theorem grows_addLink (row : Nat) (a : Assembly) (l : RawLink) : Grows a (addLink row a l) := by
  obtain ⟨-, d, -, hadd⟩ | ⟨source, target, -, hadd⟩ := addLink_cases row a l
  · rw [hadd]
    exact .report a _
  · rw [hadd]
    refine ⟨?_, edges_subset_addEdge _ _, List.Subset.refl _, ?_⟩
    · rw [Graph.ids, Graph.ids, nodes_addEdge]
      exact List.Subset.refl _
    · dsimp only
      split <;> omega

/-! ## One row -/

theorem addRow_of_nodes_eq_nil {row : Row} (h : row.nodes = []) (a : Assembly) (i : Nat) :
    addRow a (row, i) = a.report (.row i .withoutNodes) := by
  obtain ⟨_ | n, r, _ | m⟩ := row <;> first | rfl | simp [Row.nodes] at h

theorem addRow_of_nodes_ne_nil {row : Row} (h : row.nodes ≠ []) (a : Assembly) (i : Nat) :
    addRow a (row, i) = row.r.toList.foldl (addLink i) (row.nodes.foldl (addNode i) a) := by
  obtain ⟨_ | n, r, _ | m⟩ := row <;> first | rfl | simp [Row.nodes] at h

/-- A relation between an assembly and what any step makes of it. -/
structure Along (R : Assembly → Assembly → Prop) : Prop where
  refl : ∀ a, R a a
  trans : ∀ a b c, R a b → R b c → R a c
  report : ∀ a issue, R a (a.report issue)
  addNode : ∀ row a n, R a (addNode row a n)
  addLink : ∀ row a l, R a (addLink row a l)

namespace Along

variable {R : Assembly → Assembly → Prop}

theorem foldl (h : Along R) {α : Type} {step : Assembly → α → Assembly}
    (hstep : ∀ a x, R a (step a x)) (xs : List α) (a : Assembly) : R a (xs.foldl step a) := by
  induction xs generalizing a with
  | nil => exact h.refl a
  | cons x xs ih => exact h.trans _ _ _ (hstep a x) (ih _)

theorem nodes (h : Along R) (i : Nat) (ns : List RawNode) (a : Assembly) :
    R a (ns.foldl (Assembly.addNode i) a) :=
  h.foldl (h.addNode i) ns a

theorem addRow (h : Along R) (a : Assembly) (row : Row × Nat) : R a (addRow a row) := by
  obtain ⟨row, i⟩ := row
  by_cases hnodes : row.nodes = []
  · rw [addRow_of_nodes_eq_nil hnodes]
    exact h.report a _
  · rw [addRow_of_nodes_ne_nil hnodes]
    exact h.trans _ _ _ (h.nodes i _ a) (h.foldl (h.addLink i) _ _)

end Along

namespace Grows

theorem along : Along Grows :=
  ⟨refl, fun _ _ _ => trans, report, grows_addNode, grows_addLink⟩

theorem foldl {α : Type} {step : Assembly → α → Assembly} (hstep : ∀ a x, Grows a (step a x))
    (xs : List α) (a : Assembly) : Grows a (xs.foldl step a) :=
  along.foldl hstep xs a

end Grows

theorem grows_nodes (i : Nat) (ns : List RawNode) (a : Assembly) :
    Grows a (ns.foldl (addNode i) a) :=
  Grows.along.nodes i ns a

theorem addRow_of_link {row : Row} {l : RawLink} (hnodes : row.nodes ≠ []) (hl : row.r = some l)
    (a : Assembly) (i : Nat) :
    addRow a (row, i) = addLink i (row.nodes.foldl (addNode i) a) l := by
  rw [addRow_of_nodes_ne_nil hnodes, hl]
  rfl

theorem mem_ids_foldl (i : Nat) {ns : List RawNode} (a : Assembly) {n : RawNode} {id : String}
    (hn : n ∈ ns) (hid : n.id? = some id) : id ∈ (ns.foldl (addNode i) a).graph.ids := by
  obtain ⟨before, after, rfl⟩ := List.append_of_mem hn
  rw [List.foldl_append, List.foldl_cons]
  exact (grows_nodes i after _).ids (mem_ids_addNode i _ hid)

theorem mem_issues_foldl (i : Nat) {ns : List RawNode} (a : Assembly) {n : RawNode} (hn : n ∈ ns)
    (hid : n.id? = none) : .row i .withoutId ∈ (ns.foldl (addNode i) a).issues := by
  obtain ⟨before, after, rfl⟩ := List.append_of_mem hn
  rw [List.foldl_append, List.foldl_cons]
  exact (grows_nodes i after _).issues (mem_issues_addNode i _ hid)

theorem addNode_edges (row : Nat) (a : Assembly) (n : RawNode) :
    (addNode row a n).graph.edges = a.graph.edges ∧ (addNode row a n).generated = a.generated := by
  unfold addNode
  split <;> exact ⟨rfl, rfl⟩

theorem foldl_addNode_edges (i : Nat) (ns : List RawNode) (a : Assembly) :
    (ns.foldl (addNode i) a).graph.edges = a.graph.edges ∧
      (ns.foldl (addNode i) a).generated = a.generated := by
  induction ns generalizing a with
  | nil => exact ⟨rfl, rfl⟩
  | cons n ns ih =>
      obtain ⟨hedges, hgenerated⟩ := ih (addNode i a n)
      obtain ⟨hedges', hgenerated'⟩ := addNode_edges i a n
      exact ⟨hedges.trans hedges', hgenerated.trans hgenerated'⟩

theorem nodes_addRow (row : Row) (a : Assembly) (i : Nat) :
    (addRow a (row, i)).graph.nodes = (row.nodes.foldl (addNode i) a).graph.nodes := by
  by_cases hnodes : row.nodes = []
  · rw [addRow_of_nodes_eq_nil hnodes, hnodes]
    rfl
  · rw [addRow_of_nodes_ne_nil hnodes]
    cases row.r with
    | none => rfl
    | some l => exact nodes_addLink i _ l

/-! ## All rows -/

theorem ofRows_append (rows more : List Row) :
    ofRows (rows ++ more) = (more.zipIdx rows.length).foldl addRow (ofRows rows) := by
  rw [ofRows, List.zipIdx_append, List.foldl_append, Nat.zero_add]
  rfl

theorem Along.ofRows_append {R : Assembly → Assembly → Prop} (h : Along R) (rows more : List Row) :
    R (ofRows rows) (ofRows (rows ++ more)) := by
  rw [Assembly.ofRows_append]
  exact h.foldl h.addRow _ _

theorem ofRows_concat (rows : List Row) (row : Row) :
    ofRows (rows ++ [row]) = addRow (ofRows rows) (row, rows.length) :=
  ofRows_append rows [row]

theorem ofRows_take_succ {rows : List Row} {i : Nat} {row : Row} (h : rows[i]? = some row) :
    ofRows (rows.take (i + 1)) = addRow (ofRows (rows.take i)) (row, i) := by
  have hi : i < rows.length := (List.getElem?_eq_some_iff.mp h).1
  rw [List.take_add_one, h, Option.toList_some, ofRows_concat, List.length_take,
    Nat.min_eq_left (Nat.le_of_lt hi)]

theorem grows_ofRows_take (rows : List Row) (i : Nat) :
    Grows (ofRows (rows.take i)) (ofRows rows) := by
  have happend := Grows.along.ofRows_append (rows.take i) (rows.drop i)
  rwa [List.take_append_drop] at happend

theorem grows_of_getElem? {rows : List Row} {i : Nat} {row : Row} (h : rows[i]? = some row) :
    Grows (addRow (ofRows (rows.take i)) (row, i)) (ofRows rows) := by
  rw [← ofRows_take_succ h]
  exact grows_ofRows_take rows (i + 1)

theorem mem_ids_ofRows {rows : List Row} {row : Row} {n : RawNode} {id : String} (hrow : row ∈ rows)
    (hn : n ∈ row.nodes) (hid : n.id? = some id) : id ∈ (ofRows rows).graph.ids := by
  obtain ⟨i, hi⟩ := List.getElem?_of_mem hrow
  apply (grows_of_getElem? hi).ids
  rw [addRow_of_nodes_ne_nil (List.ne_nil_of_mem hn)]
  exact (Grows.foldl (grows_addLink i) _ _).ids (mem_ids_foldl i _ hn hid)

end Assembly

end AssetAtlas
