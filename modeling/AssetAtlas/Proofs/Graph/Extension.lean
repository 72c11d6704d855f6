import AssetAtlas.Proofs.Graph.Merging

/-!
More rows only add to a result. A node keeps its place and everything but the values of its
properties, of which none disappears. Edges and issues keep their places and do not change at all,
edges that are named by number included.
-/

namespace AssetAtlas

/-- A node in a later result: what it is stays, and its properties may get other values. -/
structure Node.Remains (n n' : Node) : Prop where
  id_eq : n'.id = n.id
  label_eq : n'.label = n.label
  kind_eq : n'.kind = n.kind
  rawLabel_eq : n'.rawLabel = n.rawLabel
  labels_eq : n'.labels = n.labels
  contains : ∀ key, n.properties.contains key → n'.properties.contains key

namespace Node.Remains

theorem refl (n : Node) : n.Remains n :=
  ⟨rfl, rfl, rfl, rfl, rfl, fun _ hkey => hkey⟩

theorem trans {n n' n'' : Node} (h : n.Remains n') (h' : n'.Remains n'') : n.Remains n'' where
  id_eq := h'.id_eq.trans h.id_eq
  label_eq := h'.label_eq.trans h.label_eq
  kind_eq := h'.kind_eq.trans h.kind_eq
  rawLabel_eq := h'.rawLabel_eq.trans h.rawLabel_eq
  labels_eq := h'.labels_eq.trans h.labels_eq
  contains := fun key hkey => h'.contains key (h.contains key hkey)

theorem refresh (n : Node) (c : Classification) :
    n.Remains { n with properties := Assembly.refresh n.properties c } where
  id_eq := rfl
  label_eq := rfl
  kind_eq := rfl
  rawLabel_eq := rfl
  labels_eq := rfl
  contains := by
    intro key hkey
    rw [Dictionary.contains] at hkey ⊢
    rw [Assembly.find?_refresh, Option.isSome_or, Option.isSome_or, hkey, Bool.true_or, Bool.or_true]

end Node.Remains

/-- A result that begins as another one: the nodes of the other remain where they are, and so do its
edges and issues as they are. -/
structure Continues (before after : Graph × List Issue) : Prop where
  nodes : ∀ (i : Nat) (n : Node), before.1.nodes[i]? = some n →
    ∃ n', after.1.nodes[i]? = some n' ∧ n.Remains n'
  edges : before.1.edges <+: after.1.edges
  issues : before.2 <+: after.2

namespace Assembly

def Extends (a b : Assembly) : Prop :=
  Continues (a.graph, a.issues) (b.graph, b.issues)

theorem Extends.refl (a : Assembly) : Extends a a where
  nodes := fun _ n hn => ⟨n, hn, .refl n⟩
  edges := List.prefix_refl _
  issues := List.prefix_refl _

theorem Extends.trans {a b c : Assembly} (hab : Extends a b) (hbc : Extends b c) : Extends a c where
  nodes := by
    intro i n hn
    obtain ⟨n', hn', hremains⟩ := hab.nodes i n hn
    obtain ⟨n'', hn'', hremains'⟩ := hbc.nodes i n' hn'
    exact ⟨n'', hn'', hremains.trans hremains'⟩
  edges := hab.edges.trans hbc.edges
  issues := hab.issues.trans hbc.issues

theorem exists_remains_observe {nodes : List Node} {i : Nat} {n : Node} (h : nodes[i]? = some n)
    (id : String) (labels : List String) (c : Classification) :
    ∃ n', (observe nodes id labels c)[i]? = some n' ∧ n.Remains n' := by
  induction nodes generalizing i with
  | nil => exact nomatch h
  | cons first rest ih =>
      rw [observe]
      split
      · cases i with
        | zero =>
            obtain rfl := Option.some.inj h
            exact ⟨_, rfl, .refresh first c⟩
        | succ i => exact ⟨n, h, .refl n⟩
      · cases i with
        | zero => exact ⟨n, h, .refl n⟩
        | succ i => exact ih h

theorem extends_report (a : Assembly) (issue : Issue) : Extends a (a.report issue) :=
  ⟨(Extends.refl a).nodes, List.prefix_refl _, List.prefix_append _ _⟩

theorem extends_addNode (row : Nat) (a : Assembly) (n : RawNode) : Extends a (addNode row a n) := by
  unfold addNode
  split
  · exact extends_report a _
  · next id _ =>
      refine ⟨?_, List.prefix_refl _, List.prefix_append _ _⟩
      exact fun i node hnode => exists_remains_observe hnode id n.labels n.classify

theorem extends_addLink (row : Nat) (a : Assembly) (l : RawLink) : Extends a (addLink row a l) := by
  obtain ⟨-, d, -, hadd⟩ | ⟨source, target, -, hadd⟩ := addLink_cases row a l
  · rw [hadd]
    exact extends_report a _
  · rw [hadd]
    refine ⟨?_, edges_prefix_addEdge _ _, List.prefix_refl _⟩
    dsimp only
    rw [nodes_addEdge]
    exact (Extends.refl a).nodes

theorem Extends.along : Along Extends :=
  ⟨refl, fun _ _ _ => trans, extends_report, extends_addNode, extends_addLink⟩

end Assembly

/-- The result of rows and more rows continues the result of the rows. -/
theorem normalize_append_continues (rows more : List Row) :
    Continues (normalize rows) (normalize (rows ++ more)) :=
  Assembly.Extends.along.ofRows_append rows more

end AssetAtlas
