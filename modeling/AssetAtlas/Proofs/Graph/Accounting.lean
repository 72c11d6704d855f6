import Mathlib.Data.List.Induction
import AssetAtlas.Proofs.Graph.Steps

/-!
What becomes of every part of a result. A node is in the graph under its identifier or its row is
reported. A relationship is an edge, repeats the identifier of an earlier one or is reported, unless
two relationships meet in one name: those without an identifier are numbered, and nothing keeps the
store from using such a name itself.

An edge is offered to the graph under its name, and the graph takes it unless the name is in use.
So everything rests on where the names in use come from, which is what `Numbered` keeps track of.
-/

namespace AssetAtlas

def Edge.Shows (e : Edge) (l : RawLink) : Prop :=
  l.endpoints? = some (e.source, e.target) ∧ e.kind = l.kind ∧ e.properties = l.properties

namespace Assembly

/-- Whether a node with the identifier is among the rows up to the `i`-th. -/
def KnownAt (rows : List Row) (i : Nat) (id : String) : Prop :=
  ∃ row ∈ rows.take (i + 1), ∃ n ∈ row.nodes, n.id? = some id

/-- The `i`-th row holds a relationship without an identifier between known nodes. -/
structure UnnamedAt (rows : List Row) (i : Nat) (l : RawLink) : Prop where
  link : ∃ row, rows[i]? = some row ∧ row.nodes ≠ [] ∧ row.r = some l
  unnamed : l.id? = none
  ends_known : ∃ source target, l.endpoints? = some (source, target) ∧
    KnownAt rows i source ∧ KnownAt rows i target

/-- Nothing of the rows is left out without a word. -/
structure Accounted (rows : List Row) (a : Assembly) : Prop where
  nodes : ∀ i row n, rows[i]? = some row → n ∈ row.nodes →
    (∃ id, n.id? = some id ∧ id ∈ a.graph.ids) ∨ .row i .withoutId ∈ a.issues
  links : ∀ i row l, rows[i]? = some row → row.r = some l →
    (∃ e ∈ a.graph.edges, e.Shows l ∧ ∀ id, l.id? = some id → e.id = id) ∨
    (∃ id, l.id? = some id ∧
      ∃ j < i, ∃ row' l', rows[j]? = some row' ∧ row'.r = some l' ∧ l'.id? = some id) ∨
    ∃ d : RowDefect, d.Concerns l ∧ .row i d ∈ a.issues
  /-- A relationship without an identifier has an edge of its own. -/
  unnamed : ∃ name : Nat → String,
    (∀ i l, UnnamedAt rows i l →
      (∃ e ∈ a.graph.edges, e.id = name i ∧ e.Shows l) ∧
        ∀ row ∈ rows, ∀ l', row.r = some l' → l'.id? ≠ some (name i)) ∧
    ∀ i j l l', UnnamedAt rows i l → UnnamedAt rows j l' → name i = name j → i = j

/-! ## Names in use -/

def unnamedCount (rows : List Row) : Nat :=
  rows.countP fun row => row.r.any (·.id?.isNone)

/-- Where the names of edges come from. -/
structure Numbered (rows : List Row) (a : Assembly) : Prop where
  edgeId_cases : ∀ e ∈ a.graph.edges,
    (∃ row ∈ rows, ∃ l, row.r = some l ∧ l.id? = some e.id) ∨
      ∃ k, 1 ≤ k ∧ k ≤ a.generated ∧ e.id = numberedId k
  generated_le : a.generated ≤ unnamedCount rows

theorem Numbered.congr {rows : List Row} {a b : Assembly} (h : Numbered rows a)
    (hedges : b.graph.edges = a.graph.edges) (hgenerated : b.generated = a.generated) :
    Numbered rows b := by
  obtain ⟨hcases, hle⟩ := h
  rw [← hedges, ← hgenerated] at hcases
  rw [← hgenerated] at hle
  exact ⟨hcases, hle⟩

theorem Numbered.skip {rows : List Row} {a : Assembly} (h : Numbered rows a) (row : Row) :
    Numbered (rows ++ [row]) a where
  edgeId_cases := by
    intro e he
    refine (h.edgeId_cases e he).imp_left ?_
    rintro ⟨row', hrow', hl⟩
    exact ⟨row', List.mem_append_left _ hrow', hl⟩
  generated_le := by
    rw [unnamedCount, List.countP_append]
    exact Nat.le_trans h.generated_le (Nat.le_add_right _ _)

theorem Numbered.offer {rows : List Row} {a : Assembly} (h : Numbered rows a) {row : Row}
    {l : RawLink} (hl : row.r = some l) (source target : String) :
    Numbered (rows ++ [row])
      { a with
        graph := addEdge a.graph (edgeOf l source target (a.nameOf l))
        generated := if l.id?.isNone then a.generated + 1 else a.generated } where
  edgeId_cases := by
    intro e he
    rcases eq_or_mem_of_mem_addEdge he with he | rfl
    · refine ((h.skip row).edgeId_cases e he).imp_right ?_
      rintro ⟨k, hpos, hle, hid⟩
      refine ⟨k, hpos, Nat.le_trans hle ?_, hid⟩
      dsimp only
      split <;> omega
    · cases hid : l.id? with
      | some id =>
          refine .inl ⟨row, List.mem_append_right _ (List.mem_singleton.mpr rfl), l, hl, ?_⟩
          simp [hid, edgeOf, nameOf, Edge.plain]
      | none =>
          refine .inr ⟨a.generated + 1, Nat.le_add_left 1 _, ?_, ?_⟩
          · simp
          · simp [hid, edgeOf, nameOf, Edge.plain]
  generated_le := by
    have hle := h.generated_le
    rw [unnamedCount] at hle ⊢
    rw [List.countP_append, List.countP_singleton, hl, Option.any_some]
    split
    · exact Nat.add_le_add_right hle 1
    · exact hle

theorem Numbered.addRow {rows : List Row} {a : Assembly} (h : Numbered rows a) (row : Row)
    (i : Nat) : Numbered (rows ++ [row]) (addRow a (row, i)) := by
  by_cases hnodes : row.nodes = []
  · rw [addRow_of_nodes_eq_nil hnodes]
    exact (h.skip row).congr rfl rfl
  obtain ⟨hedges, hgenerated⟩ := foldl_addNode_edges i row.nodes a
  have hwith := h.congr hedges hgenerated
  cases hl : row.r with
  | none =>
      rw [addRow_of_nodes_ne_nil hnodes, hl]
      exact hwith.skip row
  | some l =>
      rw [addRow_of_link hnodes hl]
      obtain ⟨-, d, -, hadd⟩ | ⟨source, target, -, hadd⟩ :=
        addLink_cases i (row.nodes.foldl (addNode i) a) l
      · rw [hadd]
        exact (hwith.skip row).congr rfl rfl
      · rw [hadd]
        exact hwith.offer hl source target

theorem numbered_ofRows (rows : List Row) : Numbered rows (ofRows rows) := by
  induction rows using List.reverseRecOn with
  | nil => exact ⟨fun e he => absurd he List.not_mem_nil, Nat.le_refl 0⟩
  | append_singleton rows row ih =>
      rw [ofRows_concat]
      exact ih.addRow row rows.length

/-- The store uses none of the names that are given to its relationships without an identifier. -/
def LeavesNumbers (rows : List Row) : Prop :=
  ∀ row ∈ rows, ∀ l, row.r = some l →
    ∀ k, 1 ≤ k → k ≤ unnamedCount rows → l.id? ≠ some (numberedId k)

theorem unnamedCount_take_lt {rows : List Row} {i : Nat} {row : Row} {l : RawLink}
    (hrow : rows[i]? = some row) (hl : row.r = some l) (hid : l.id? = none) :
    unnamedCount (rows.take i) < unnamedCount rows := by
  have hsucc : unnamedCount (rows.take (i + 1)) = unnamedCount (rows.take i) + 1 := by
    simp [unnamedCount, List.take_add_one, hrow, hl, hid]
  have hle : unnamedCount (rows.take (i + 1)) ≤ unnamedCount rows :=
    (List.take_sublist _ _).countP_le
  omega

/-- The assembly that the relationship of a row comes to: the nodes of the row are there. -/
def beforeLink (rows : List Row) (i : Nat) (row : Row) : Assembly :=
  row.nodes.foldl (addNode i) (ofRows (rows.take i))

/-- The number that a relationship without an identifier gets in a row. -/
def numberAt (rows : List Row) (i : Nat) : Nat :=
  (ofRows (rows.take i)).generated + 1

theorem generated_beforeLink (rows : List Row) (i : Nat) (row : Row) :
    (beforeLink rows i row).generated + 1 = numberAt rows i :=
  congrArg (· + 1) (foldl_addNode_edges i row.nodes _).2

theorem nameOf_beforeLink (rows : List Row) (i : Nat) (row : Row) {l : RawLink}
    (hid : l.id? = none) : (beforeLink rows i row).nameOf l = numberedId (numberAt rows i) := by
  rw [nameOf, hid, Option.getD_none, generated_beforeLink]

theorem numbered_beforeLink (rows : List Row) (i : Nat) (row : Row) :
    Numbered (rows.take i) (beforeLink rows i row) := by
  obtain ⟨hedges, hgenerated⟩ := foldl_addNode_edges i row.nodes (ofRows (rows.take i))
  exact (numbered_ofRows (rows.take i)).congr hedges hgenerated

theorem grows_afterLink {rows : List Row} {i : Nat} {row : Row} {l : RawLink}
    (hrow : rows[i]? = some row) (hnodes : row.nodes ≠ []) (hl : row.r = some l) :
    Grows (addLink i (beforeLink rows i row) l) (ofRows rows) := by
  rw [beforeLink, ← addRow_of_link hnodes hl]
  exact grows_of_getElem? hrow

theorem nameOf_notMem_of_unnamed {rows : List Row} (hfree : LeavesNumbers rows) {i : Nat}
    {row : Row} {l : RawLink} (hrow : rows[i]? = some row) (hl : row.r = some l)
    (hid : l.id? = none) :
    (beforeLink rows i row).nameOf l ∉ (beforeLink rows i row).graph.edgeIds := by
  obtain ⟨hcases, hle⟩ := numbered_beforeLink rows i row
  have hcount := unnamedCount_take_lt hrow hl hid
  rw [nameOf, hid, Option.getD_none]
  intro hmem
  obtain ⟨e, he, hname⟩ := List.mem_map.mp hmem
  obtain ⟨row', hrow', l', hl', hid'⟩ | ⟨k, -, hk, hid'⟩ := hcases e he
  · rw [hname] at hid'
    exact hfree row' (List.mem_of_mem_take hrow') l' hl' _ (by omega) (by omega) hid'
  · have := numberedId_injective (hname.symm.trans hid')
    omega

theorem repeats_of_mem_edgeIds {rows : List Row} (hfree : LeavesNumbers rows) {i : Nat} {row : Row}
    {l : RawLink} {id : String} (hrow : rows[i]? = some row) (hl : row.r = some l)
    (hid : l.id? = some id) (hmem : id ∈ (beforeLink rows i row).graph.edgeIds) :
    ∃ j < i, ∃ row' l', rows[j]? = some row' ∧ row'.r = some l' ∧ l'.id? = some id := by
  obtain ⟨hcases, hle⟩ := numbered_beforeLink rows i row
  obtain ⟨e, he, rfl⟩ := List.mem_map.mp hmem
  obtain ⟨row', hrow', l', hl', hid'⟩ | ⟨k, hpos, hk, hid'⟩ := hcases e he
  · obtain ⟨j, hj, rfl⟩ := List.mem_take_iff_getElem.mp hrow'
    exact ⟨j, by omega, _, l', List.getElem?_eq_getElem _, hl', hid'⟩
  · have hcount : unnamedCount (rows.take i) ≤ unnamedCount rows :=
      (List.take_sublist _ _).countP_le
    rw [hid'] at hid
    exact absurd hid (hfree row (List.mem_of_getElem? hrow) l hl k hpos (by omega))

theorem links_accounted {rows : List Row} (hfree : LeavesNumbers rows) {i : Nat} {row : Row}
    {l : RawLink} (hrow : rows[i]? = some row) (hl : row.r = some l) :
    (∃ e ∈ (ofRows rows).graph.edges, e.Shows l ∧ ∀ id, l.id? = some id → e.id = id) ∨
    (∃ id, l.id? = some id ∧
      ∃ j < i, ∃ row' l', rows[j]? = some row' ∧ row'.r = some l' ∧ l'.id? = some id) ∨
    ∃ d : RowDefect, d.Concerns l ∧ .row i d ∈ (ofRows rows).issues := by
  by_cases hnodes : row.nodes = []
  · refine .inr (.inr ⟨.withoutNodes, trivial, (grows_of_getElem? hrow).issues ?_⟩)
    rw [addRow_of_nodes_eq_nil hnodes]
    exact List.mem_append_right _ (List.mem_singleton.mpr rfl)
  have hafter := grows_afterLink hrow hnodes hl
  obtain ⟨-, d, hd, hadd⟩ | ⟨source, target, hends, hadd⟩ :=
    addLink_cases i (beforeLink rows i row) l
  · refine .inr (.inr ⟨d, hd, hafter.issues ?_⟩)
    rw [hadd]
    exact List.mem_append_right _ (List.mem_singleton.mpr rfl)
  rw [hadd] at hafter
  have hshows (name : String) : (edgeOf l source target name).Shows l := ⟨hends, rfl, rfl⟩
  cases hid : l.id? with
  | none =>
      refine .inl ⟨_, hafter.edges (mem_addEdge_of_fresh ?_), hshows _, nofun⟩
      exact nameOf_notMem_of_unnamed hfree hrow hl hid
  | some id =>
      have hname : (beforeLink rows i row).nameOf l = id := by
        rw [nameOf, hid, Option.getD_some]
      by_cases hmem : id ∈ (beforeLink rows i row).graph.edgeIds
      · exact .inr (.inl ⟨id, rfl, repeats_of_mem_edgeIds hfree hrow hl hid hmem⟩)
      · refine .inl ⟨_, hafter.edges (mem_addEdge_of_fresh (hname ▸ hmem)), hshows _, ?_⟩
        intro id' hid'
        exact hname.trans (Option.some.inj hid')

theorem mem_ids_beforeLink {rows : List Row} {i : Nat} {row : Row} {id : String}
    (hrow : rows[i]? = some row) (hknown : KnownAt rows i id) :
    id ∈ (beforeLink rows i row).graph.ids := by
  obtain ⟨row', hmem, n, hn, hid⟩ := hknown
  rw [List.take_add_one, hrow, Option.toList_some] at hmem
  rcases List.mem_append.mp hmem with hmem | hmem
  · exact (grows_nodes i row.nodes _).ids (mem_ids_ofRows hmem hn hid)
  · obtain rfl := List.mem_singleton.mp hmem
    exact mem_ids_foldl i _ hn hid

theorem UnnamedAt.addLink_eq {rows : List Row} {i : Nat} {l : RawLink} (h : UnnamedAt rows i l)
    {row : Row} (hrow : rows[i]? = some row) :
    ∃ source target, l.endpoints? = some (source, target) ∧
      addLink i (beforeLink rows i row) l =
        { beforeLink rows i row with
          graph := addEdge (beforeLink rows i row).graph
            (edgeOf l source target (numberedId (numberAt rows i)))
          generated := numberAt rows i } := by
  obtain ⟨source, target, hends, hsource, htarget⟩ := h.ends_known
  obtain ⟨hunknown, -⟩ | ⟨source', target', hends', hadd⟩ :=
    addLink_cases i (beforeLink rows i row) l
  · exact absurd ⟨mem_ids_beforeLink hrow hsource, mem_ids_beforeLink hrow htarget⟩
      (hunknown source target hends)
  · refine ⟨source', target', hends', ?_⟩
    rw [hadd, nameOf_beforeLink rows i row h.unnamed, h.unnamed, generated_beforeLink]
    rfl

theorem UnnamedAt.generated_take_succ {rows : List Row} {i : Nat} {l : RawLink}
    (h : UnnamedAt rows i l) : (ofRows (rows.take (i + 1))).generated = numberAt rows i := by
  obtain ⟨row, hrow, hnodes, hl⟩ := h.link
  obtain ⟨source, target, -, hadd⟩ := h.addLink_eq hrow
  rw [ofRows_take_succ hrow, addRow_of_link hnodes hl]
  exact congrArg generated hadd

theorem UnnamedAt.numberAt_lt {rows : List Row} {i j : Nat} {l : RawLink} (h : UnnamedAt rows i l)
    (hij : i < j) : numberAt rows i < numberAt rows j := by
  have hgrows := grows_ofRows_take (rows.take j) (i + 1)
  rw [List.take_take, Nat.min_eq_left hij] at hgrows
  have hle := hgrows.generated
  rw [h.generated_take_succ] at hle
  exact Nat.lt_succ_of_le hle

theorem UnnamedAt.exists_edge {rows : List Row} (hfree : LeavesNumbers rows) {i : Nat}
    {l : RawLink} (h : UnnamedAt rows i l) :
    ∃ e ∈ (ofRows rows).graph.edges, e.id = numberedId (numberAt rows i) ∧ e.Shows l := by
  obtain ⟨row, hrow, hnodes, hl⟩ := h.link
  obtain ⟨source, target, hends, hadd⟩ := h.addLink_eq hrow
  have hafter := grows_afterLink hrow hnodes hl
  have hfresh := nameOf_notMem_of_unnamed hfree hrow hl h.unnamed
  rw [nameOf_beforeLink rows i row h.unnamed] at hfresh
  rw [hadd] at hafter
  exact ⟨_, hafter.edges (mem_addEdge_of_fresh hfresh), rfl, hends, rfl, rfl⟩

theorem UnnamedAt.numberAt_le {rows : List Row} {i : Nat} {l : RawLink} (h : UnnamedAt rows i l) :
    numberAt rows i ≤ unnamedCount rows := by
  rw [← h.generated_take_succ]
  exact Nat.le_trans (grows_ofRows_take rows (i + 1)).generated (numbered_ofRows rows).generated_le

/-- As long as the store leaves the numbered names alone, nothing of its rows is left out without a
word, and every relationship without an identifier between known nodes has an edge of its own. -/
theorem nothing_left_out (rows : List Row) (hfree : LeavesNumbers rows) :
    Accounted rows (ofRows rows) where
  nodes := by
    intro i row n hrow hn
    have hgrows := grows_of_getElem? hrow
    rw [addRow_of_nodes_ne_nil (List.ne_nil_of_mem hn)] at hgrows
    have hafter := (Grows.foldl (grows_addLink i) row.r.toList _).trans hgrows
    cases hid : n.id? with
    | none => exact .inr (hafter.issues (mem_issues_foldl i _ hn hid))
    | some id => exact .inl ⟨id, rfl, hafter.ids (mem_ids_foldl i _ hn hid)⟩
  links := fun _ _ _ hrow hl => links_accounted hfree hrow hl
  unnamed := by
    refine ⟨fun i => numberedId (numberAt rows i), ?_, ?_⟩
    · intro i l h
      refine ⟨h.exists_edge hfree, ?_⟩
      intro row hrow l' hl'
      exact hfree row hrow l' hl' _ (Nat.le_add_left 1 _) h.numberAt_le
    · intro i j l l' h h' hname
      have hnumber := numberedId_injective hname
      rcases Nat.lt_trichotomy i j with hij | hij | hij
      · have := h.numberAt_lt hij
        omega
      · exact hij
      · have := h'.numberAt_lt hij
        omega

def twoLinks (id : String) : List Row :=
  let node (id : String) : RawNode := { id := .string id }
  let link (id : Json) (source target : String) : RawLink :=
    { id, kind := "uses", start_node := some (.string source), end_node := some (.string target) }
  [.ofTriple (node "1") (link (.string id) "1" "2") (node "2"),
    .ofTriple (node "3") (link .null "3" "2") (node "2")]

/-- The store uses a numbered name that is not given to any relationship. -/
theorem nothing_left_out_number_unused :
    LeavesNumbers (twoLinks "edge-2") ∧
      Accounted (twoLinks "edge-2") (ofRows (twoLinks "edge-2")) := by
  have hfree : LeavesNumbers (twoLinks "edge-2") := by
    intro row hrow l hl k hpos hle
    have hk : k = 1 := Nat.le_antisymm hle hpos
    subst hk
    simp only [twoLinks, List.mem_cons, List.not_mem_nil, or_false] at hrow
    rcases hrow with rfl | rfl
    · obtain rfl := Option.some.inj hl
      decide
    · obtain rfl := Option.some.inj hl
      decide
  exact ⟨hfree, nothing_left_out _ hfree⟩

/-- Of two relationships that meet in a numbered name the later one is gone. -/
theorem number_in_use_left_out :
    ¬ Accounted (twoLinks "edge-1") (ofRows (twoLinks "edge-1")) ∧
      ¬ Accounted (twoLinks "edge-1").reverse (ofRows (twoLinks "edge-1").reverse) := by
  constructor
  · intro h
    have hedges : (ofRows (twoLinks "edge-1")).graph.edges = [.plain "edge-1" "1" "2" "uses"] := rfl
    have hissues : (ofRows (twoLinks "edge-1")).issues = [] := rfl
    rcases h.links 1 _ _ rfl rfl with ⟨e, he, hshows, -⟩ | ⟨id, hid, -⟩ | ⟨d, -, hd⟩
    · rw [hedges] at he
      obtain rfl := List.mem_singleton.mp he
      exact absurd hshows.1 (by decide)
    · exact nomatch hid
    · rw [hissues] at hd
      exact nomatch hd
  · intro h
    have hedges : (ofRows (twoLinks "edge-1").reverse).graph.edges =
        [.plain "edge-1" "3" "2" "uses"] := rfl
    have hissues : (ofRows (twoLinks "edge-1").reverse).issues = [] := rfl
    rcases h.links 1 _ _ rfl rfl with ⟨e, he, hshows, -⟩ | ⟨id, -, j, hj, row, l, hrow, hl, hid⟩ |
      ⟨d, -, hd⟩
    · rw [hedges] at he
      obtain rfl := List.mem_singleton.mp he
      exact absurd hshows.1 (by decide)
    · -- the only earlier relationship has no identifier to repeat
      obtain rfl : j = 0 := by omega
      obtain rfl := Option.some.inj hrow
      obtain rfl := Option.some.inj hl
      exact nomatch hid
    · rw [hissues] at hd
      exact nomatch hd

end Assembly

end AssetAtlas
