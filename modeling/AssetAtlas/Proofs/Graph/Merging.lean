import Mathlib.Data.List.Forall2
import Mathlib.Data.List.Induction
import AssetAtlas.Proofs.Graph.Steps

/-!
What becomes of a node that many rows describe. Its first observation decides what it is and where
it stands. Under each key the value that was observed last counts. A placeholder counts only if no
value was observed at all, and then it is the first one. The main statement is `normalize_merges`.

An observation changes one node and leaves the others alone, and what it does to a property does not
depend on the other properties. So the law is shown for one key of one node, one observation at a
time.
-/

namespace AssetAtlas

namespace Classification

/-- What the node itself says under a key. -/
def observed? (c : Classification) (key : String) : Option Json :=
  if c.placeholders.contains key then none else c.properties.find? key

/-- What stands in under a key. -/
def placeholder? (c : Classification) (key : String) : Option Json :=
  if c.placeholders.contains key then c.properties.find? key else none

/-- The value under a key after some observations: the last one that was observed, else the first
placeholder. -/
def merged? (cs : List Classification) (key : String) : Option Json :=
  (cs.filterMap (·.observed? key)).getLast?.or (cs.filterMap (·.placeholder? key)).head?

theorem observed?_or_placeholder? (c : Classification) (key : String) :
    (c.observed? key).or (c.placeholder? key) = c.properties.find? key := by
  unfold observed? placeholder?
  split
  · rfl
  · exact Option.or_none

theorem getLast?_filterMap_concat {α β : Type} (f : α → Option β) (l : List α) (a : α) :
    ((l ++ [a]).filterMap f).getLast? = (f a).or (l.filterMap f).getLast? := by
  cases h : f a <;> simp [h]

theorem head?_filterMap_concat {α β : Type} (f : α → Option β) (l : List α) (a : α) :
    ((l ++ [a]).filterMap f).head? = (l.filterMap f).head?.or (f a) := by
  cases h : f a <;> simp [h]

/-- What one more observation says itself replaces the value; its placeholder only fills a gap. -/
theorem merged?_concat (cs : List Classification) (c : Classification) (key : String) :
    merged? (cs ++ [c]) key =
      (c.observed? key).or ((merged? cs key).or (c.placeholder? key)) := by
  rw [merged?, merged?, getLast?_filterMap_concat, head?_filterMap_concat, Option.or_assoc,
    Option.or_assoc]

theorem merged?_singleton (c : Classification) (key : String) :
    merged? [c] key = c.properties.find? key :=
  (merged?_concat [] c key).trans (c.observed?_or_placeholder? key)

theorem merged?_eq_none_iff (cs : List Classification) (key : String) :
    merged? cs key = none ↔ ∀ c ∈ cs, c.properties.find? key = none := by
  simp only [merged?, Option.or_eq_none_iff, List.getLast?_eq_none_iff, List.head?_eq_none_iff,
    List.filterMap_eq_nil_iff, ← observed?_or_placeholder?, forall_and]

theorem exists_of_merged?_eq_some {cs : List Classification} {key : String} {value : Json}
    (h : merged? cs key = some value) : ∃ c ∈ cs, c.properties.find? key = some value := by
  rcases Option.or_eq_some_iff.mp h with hlast | ⟨-, hfirst⟩
  · obtain ⟨c, hc, hobserved⟩ := List.mem_filterMap.mp (List.mem_of_getLast? hlast)
    refine ⟨c, hc, ?_⟩
    rw [← observed?_or_placeholder?, hobserved, Option.some_or]
  · obtain ⟨c, hc, hplaceholder⟩ := List.mem_filterMap.mp (List.mem_of_head? hfirst)
    refine ⟨c, hc, ?_⟩
    unfold placeholder? at hplaceholder
    split at hplaceholder
    · exact hplaceholder
    · exact nomatch hplaceholder

theorem exists_merged? {cs : List Classification} (hne : cs ≠ []) {key : String} {P : Json → Prop}
    (h : ∀ c ∈ cs, ∃ value, c.properties.find? key = some value ∧ P value) :
    ∃ value, merged? cs key = some value ∧ P value := by
  obtain ⟨c, hc⟩ := List.exists_mem_of_ne_nil cs hne
  have hsome : merged? cs key ≠ none := by
    intro hnone
    obtain ⟨value, hvalue, -⟩ := h c hc
    exact nomatch hvalue.symm.trans ((merged?_eq_none_iff cs key).mp hnone c hc)
  obtain ⟨value, hvalue⟩ := Option.ne_none_iff_exists'.mp hsome
  obtain ⟨c, hc, hsaid⟩ := exists_of_merged?_eq_some hvalue
  obtain ⟨value', hvalue', hP⟩ := h c hc
  obtain rfl := Option.some.inj (hsaid.symm.trans hvalue')
  exact ⟨value, hvalue, hP⟩

/-- Under the key stands what the node itself says, and a fixed placeholder if it says nothing. -/
def Fills (c : Classification) (key : String) (value? : Option Json) (default : Json) : Prop :=
  c.observed? key = value? ∧ (value? = none → c.placeholder? key = some default)

theorem merged?_map {α : Type} {xs : List α} {f : α → Classification} {key : String}
    {read : α → Option Json} (h : ∀ x ∈ xs, (f x).observed? key = read x) :
    merged? (xs.map f) key =
      (xs.filterMap read).getLast?.or (xs.filterMap fun x => (f x).placeholder? key).head? := by
  rw [merged?, List.filterMap_map, List.filterMap_map, ← List.filterMap_congr h]
  rfl

theorem merged?_of_fills {α : Type} {xs : List α} (hne : xs ≠ []) {f : α → Classification}
    {key : String} {read : α → Option Json} {default : Json}
    (h : ∀ x ∈ xs, (f x).Fills key (read x) default) :
    merged? (xs.map f) key = some ((xs.filterMap read).getLast?.getD default) := by
  rw [merged?_map fun x hx => (h x hx).1]
  cases hlast : (xs.filterMap read).getLast? with
  | some value => rfl
  | none =>
      -- nothing was observed, so every observation leaves the placeholder
      have hnone := List.filterMap_eq_nil_iff.mp (List.getLast?_eq_none_iff.mp hlast)
      obtain ⟨x, rest, rfl⟩ := List.exists_cons_of_ne_nil hne
      have hx := (h x List.mem_cons_self).2 (hnone x List.mem_cons_self)
      simp [hx]

theorem merged?_of_observed {α : Type} {xs : List α} {f : α → Classification} {key : String}
    {read : α → Option Json} (hobserved : ∀ x ∈ xs, (f x).observed? key = read x)
    (hplaceholder : ∀ x ∈ xs, (f x).placeholder? key = none) :
    merged? (xs.map f) key = (xs.filterMap read).getLast? := by
  rw [merged?_map hobserved, List.filterMap_eq_nil_iff.mpr hplaceholder]
  exact Option.or_none

end Classification

/-! ## One node -/

namespace Assembly

def refreshEntry (c : Classification) (p : Properties) (e : String × Json) : Properties :=
  if c.placeholders.contains e.1 && p.contains e.1 then p else p.insert e.1 e.2

theorem find?_refreshEntry_of_ne (c : Classification) (p : Properties) {e : String × Json}
    {key : String} (h : key ≠ e.1) : (refreshEntry c p e).find? key = p.find? key := by
  unfold refreshEntry
  split
  · rfl
  · rw [Dictionary.find?_insert, if_neg h]

theorem find?_refreshEntry_self (c : Classification) (p : Properties) (key : String)
    (value : Json) : (refreshEntry c p (key, value)).find? key =
      if c.placeholders.contains key then (p.find? key).or (some value) else some value := by
  unfold refreshEntry
  rw [Dictionary.contains]
  cases c.placeholders.contains key <;> cases hfound : p.find? key <;>
    simp [Dictionary.find?_insert, hfound]

theorem find?_foldl_refreshEntry (c : Classification) {entries : List (String × Json)}
    (hordered : entries.Pairwise fun a b => a.1 < b.1) (p : Properties) (key : String) :
    (entries.foldl (refreshEntry c) p).find? key =
      if c.placeholders.contains key then (p.find? key).or (entries.lookup key)
      else (entries.lookup key).or (p.find? key) := by
  induction entries generalizing p with
  | nil => simp
  | cons e rest ih =>
      obtain ⟨hfirst, hrest⟩ := List.pairwise_cons.mp hordered
      rw [List.foldl_cons, ih hrest, lookup_cons_eq_ite]
      by_cases hkey : key = e.1
      · -- no later entry has the key
        have hlater : rest.lookup key = none := by
          rw [List.lookup_eq_none_iff]
          intro later hmem
          have hlt : key < later.1 := hkey ▸ hfirst later hmem
          exact bne_iff_ne.mpr fun heq => String.lt_irrefl key (heq ▸ hlt)
        subst hkey
        rw [hlater, find?_refreshEntry_self, if_pos rfl]
        split <;> simp
      · rw [find?_refreshEntry_of_ne c p hkey, if_neg hkey]

theorem find?_refresh (p : Properties) (c : Classification) (key : String) :
    (refresh p c).find? key = (c.observed? key).or ((p.find? key).or (c.placeholder? key)) := by
  have hfold := find?_foldl_refreshEntry c c.properties.ordered p key
  change (refresh p c).find? key = _ at hfold
  rw [hfold, Classification.observed?, Classification.placeholder?]
  split
  · rfl
  · rw [Option.or_none]
    rfl

end Assembly

def observationsOf (ns : List RawNode) (id : String) : List RawNode :=
  ns.filter (·.id? = some id)

/-- The identifiers of observed nodes, in the order of their first observations. -/
def observedIds (ns : List RawNode) : List String :=
  (ns.filterMap RawNode.id?).eraseDups

/-- A node is what its observations make of it. -/
structure Node.Merges (node : Node) (id : String) (ns : List RawNode) : Prop where
  id_eq : node.id = id
  first : ∃ n ∈ ns.head?, node.label = n.classify.label ∧ node.kind = n.classify.kind ∧
    node.rawLabel = n.classify.rawLabel ∧ node.labels = n.labels
  find?_eq : ∀ key,
    node.properties.find? key = Classification.merged? (ns.map RawNode.classify) key
  absent_iff : ∀ key, node.properties.find? key = none ↔
    ∀ n ∈ ns, n.classify.properties.find? key = none

namespace Node.Merges

variable {node : Node} {id : String} {ns : List RawNode}

theorem of_find? (id_eq : node.id = id)
    (first : ∃ n ∈ ns.head?, node.label = n.classify.label ∧ node.kind = n.classify.kind ∧
      node.rawLabel = n.classify.rawLabel ∧ node.labels = n.labels)
    (find?_eq : ∀ key,
      node.properties.find? key = Classification.merged? (ns.map RawNode.classify) key) :
    node.Merges id ns where
  id_eq := id_eq
  first := first
  find?_eq := find?_eq
  absent_iff := by
    intro key
    rw [find?_eq, Classification.merged?_eq_none_iff, List.forall_mem_map]

theorem firstObservation (id : String) (n : RawNode) :
    (Assembly.firstObservation id n.labels n.classify).Merges id [n] := by
  refine of_find? rfl ⟨n, rfl, rfl, rfl, rfl, rfl⟩ fun key => ?_
  exact (Classification.merged?_singleton n.classify key).symm

theorem refresh (h : node.Merges id ns) (n : RawNode) :
    { node with properties := Assembly.refresh node.properties n.classify }.Merges id
      (ns ++ [n]) := by
  refine of_find? h.id_eq ?_ fun key => ?_
  · obtain ⟨first, hfirst, hsame⟩ := h.first
    exact ⟨first, by rw [List.head?_append, hfirst]; rfl, hsame⟩
  · rw [List.map_append, List.map_singleton, Classification.merged?_concat, ← h.find?_eq]
    exact Assembly.find?_refresh _ _ _

theorem ne_nil (h : node.Merges id ns) : ns ≠ [] := by
  rintro rfl
  obtain ⟨first, hfirst, -⟩ := h.first
  exact nomatch hfirst

theorem exists_find? (h : node.Merges id ns) {key : String} {P : Json → Prop}
    (hsaid : ∀ n ∈ ns, ∃ value, n.classify.properties.find? key = some value ∧ P value) :
    ∃ value, node.properties.find? key = some value ∧ P value := by
  rw [h.find?_eq]
  refine Classification.exists_merged? (mt List.map_eq_nil_iff.mp h.ne_nil) ?_
  exact List.forall_mem_map.mpr hsaid

theorem find?_of_fills (h : node.Merges id ns) {key : String} {read : RawNode → Option Json}
    {default : Json} (hfills : ∀ n ∈ ns, n.classify.Fills key (read n) default) :
    node.properties.find? key = some ((ns.filterMap read).getLast?.getD default) := by
  rw [h.find?_eq]
  exact Classification.merged?_of_fills h.ne_nil hfills

end Node.Merges

/-! ## All nodes -/

theorem observationsOf_concat_self {n : RawNode} {id : String} (h : n.id? = some id)
    (ns : List RawNode) : observationsOf (ns ++ [n]) id = observationsOf ns id ++ [n] := by
  simp [observationsOf, h]

theorem observationsOf_concat_of_ne {n : RawNode} {id : String} (h : n.id? ≠ some id)
    (ns : List RawNode) : observationsOf (ns ++ [n]) id = observationsOf ns id := by
  simp [observationsOf, h]

theorem observationsOf_eq_nil {ns : List RawNode} {id : String} (h : id ∉ observedIds ns) :
    observationsOf ns id = [] := by
  refine List.filter_eq_nil_iff.mpr fun n hn hid => h ?_
  exact List.mem_eraseDups.mpr (List.mem_filterMap.mpr ⟨n, hn, of_decide_eq_true hid⟩)

theorem observedIds_concat_of_none {n : RawNode} (h : n.id? = none) (ns : List RawNode) :
    observedIds (ns ++ [n]) = observedIds ns := by
  simp [observedIds, h]

theorem eraseDups_concat (ids : List String) (id : String) :
    (ids ++ [id]).eraseDups = addId ids.eraseDups id := by
  rw [List.eraseDups_append, addId]
  by_cases hknown : id ∈ ids <;> simp [List.removeAll, hknown, List.eraseDups_cons]

theorem observedIds_concat_of_some {n : RawNode} {id : String} (h : n.id? = some id)
    (ns : List RawNode) : observedIds (ns ++ [n]) = addId (observedIds ns) id := by
  rw [observedIds, observedIds, ← eraseDups_concat]
  simp [h]

theorem nodup_observedIds (ns : List RawNode) : (observedIds ns).Nodup := by
  induction ns using List.reverseRecOn with
  | nil => exact List.nodup_nil
  | append_singleton ns n ih =>
      cases hid : n.id? with
      | none =>
          rw [observedIds_concat_of_none hid]
          exact ih
      | some id =>
          rw [observedIds_concat_of_some hid]
          exact nodup_addId ih id

namespace Assembly

/-- Adds an observation; without an identifier it is left out. -/
def addObservation (nodes : List Node) (n : RawNode) : List Node :=
  match n.id? with
  | none => nodes
  | some id => observe nodes id n.labels n.classify

theorem nodes_addNode (row : Nat) (a : Assembly) (n : RawNode) :
    (addNode row a n).graph.nodes = addObservation a.graph.nodes n := by
  unfold addNode addObservation
  cases n.id? <;> rfl

theorem nodes_foldl_addNode (row : Nat) (ns : List RawNode) (a : Assembly) :
    (ns.foldl (addNode row) a).graph.nodes = ns.foldl addObservation a.graph.nodes := by
  induction ns generalizing a with
  | nil => rfl
  | cons n ns ih => rw [List.foldl_cons, List.foldl_cons, ih, nodes_addNode]

theorem nodes_ofRows (rows : List Row) :
    (ofRows rows).graph.nodes = (rows.flatMap Row.nodes).foldl addObservation [] := by
  induction rows using List.reverseRecOn with
  | nil => rfl
  | append_singleton rows row ih =>
      rw [ofRows_concat, nodes_addRow, nodes_foldl_addNode, ih, List.flatMap_append,
        List.flatMap_singleton, List.foldl_append]

/-- The nodes are what their observations make of them, in the order of the identifiers. -/
def Merged (ns : List RawNode) (nodes : List Node) (ids : List String) : Prop :=
  List.Forall₂ (fun node id => node.Merges id (observationsOf ns id)) nodes ids

theorem Merged.concat_of_not_mem {ns : List RawNode} {nodes : List Node} {ids : List String}
    (h : Merged ns nodes ids) {n : RawNode} (hn : ∀ id ∈ ids, n.id? ≠ some id) :
    Merged (ns ++ [n]) nodes ids := by
  induction h with
  | nil => exact .nil
  | cons hnode _ ih =>
      obtain ⟨hid, hids⟩ := List.forall_mem_cons.mp hn
      refine .cons ?_ (ih hids)
      rw [observationsOf_concat_of_ne hid]
      exact hnode

theorem Merged.observe {ns : List RawNode} {nodes : List Node} {ids : List String}
    (h : Merged ns nodes ids) (hnodup : ids.Nodup) {n : RawNode} {id : String}
    (hid : n.id? = some id) (hnew : id ∉ ids → observationsOf ns id = []) :
    Merged (ns ++ [n]) (observe nodes id n.labels n.classify) (addId ids id) := by
  induction h with
  | nil =>
      refine .cons ?_ .nil
      rw [observationsOf_concat_self hid, hnew List.not_mem_nil]
      exact .firstObservation id n
  | @cons node other nodes ids hnode hnodes ih =>
      obtain ⟨hother, hnodup⟩ := List.nodup_cons.mp hnodup
      by_cases hsame : other = id
      · -- the node is refreshed, and no other node has its identifier
        subst hsame
        rw [Assembly.observe, if_pos (beq_iff_eq.mpr hnode.id_eq), addId, if_pos List.mem_cons_self]
        refine .cons ?_ ?_
        · rw [observationsOf_concat_self hid]
          exact hnode.refresh n
        · refine Merged.concat_of_not_mem hnodes fun later hmem hlater => hother ?_
          rw [Option.some.inj (hid.symm.trans hlater)]
          exact hmem
      · have hnode' : node.Merges other (observationsOf (ns ++ [n]) other) := by
          rw [observationsOf_concat_of_ne fun hn => hsame (Option.some.inj (hn.symm.trans hid))]
          exact hnode
        have hne : ¬ (node.id == id) = true := by
          rw [hnode.id_eq, beq_iff_eq]
          exact hsame
        rw [Assembly.observe, if_neg hne, addId_cons_of_ne hsame]
        refine .cons hnode' (ih hnodup fun hmem => hnew ?_)
        exact List.not_mem_cons_of_ne_of_not_mem (Ne.symm hsame) hmem

theorem merged_foldl (ns : List RawNode) :
    Merged ns (ns.foldl addObservation []) (observedIds ns) := by
  induction ns using List.reverseRecOn with
  | nil => exact .nil
  | append_singleton ns n ih =>
      rw [List.foldl_concat, addObservation]
      cases hid : n.id? with
      | none =>
          rw [observedIds_concat_of_none hid]
          refine ih.concat_of_not_mem fun id _ hn => ?_
          exact nomatch hid.symm.trans hn
      | some id =>
          rw [observedIds_concat_of_some hid]
          exact ih.observe (nodup_observedIds ns) hid observationsOf_eq_nil

theorem Merged.exists_find? {ns : List RawNode} {nodes : List Node} {ids : List String}
    (h : Merged ns nodes ids) {id : String} (hid : id ∈ ids) :
    ∃ node, nodes.find? (·.id == id) = some node ∧ node.Merges id (observationsOf ns id) := by
  induction h with
  | nil => exact nomatch hid
  | @cons node other nodes ids hnode _ ih =>
      by_cases hsame : other = id
      · subst hsame
        exact ⟨node, List.find?_cons_of_pos (beq_iff_eq.mpr hnode.id_eq), hnode⟩
      · obtain ⟨found, hfound, hmerges⟩ := ih (List.mem_of_ne_of_mem (Ne.symm hsame) hid)
        refine ⟨found, (List.find?_cons_of_neg ?_).trans hfound, hmerges⟩
        rw [hnode.id_eq, beq_iff_eq]
        exact hsame

end Assembly

def observationsIn (rows : List Row) (id : String) : List RawNode :=
  observationsOf (rows.flatMap Row.nodes) id

theorem exists_node?_normalize {rows : List Row} {id : String} (h : observationsIn rows id ≠ []) :
    ∃ node, (normalize rows).1.node? id = some node ∧ node.Merges id (observationsIn rows id) := by
  have hmerged := Assembly.merged_foldl (rows.flatMap Row.nodes)
  rw [← Assembly.nodes_ofRows] at hmerged
  refine hmerged.exists_find? (Decidable.byContradiction fun hid => h ?_)
  exact observationsOf_eq_nil hid

def mergedProperty? (rows : List Row) (id key : String) : Option Json :=
  ((normalize rows).1.node? id).bind (·.properties.find? key)

theorem exists_merges {rows : List Row} {id : String} (h : observationsIn rows id ≠ []) :
    ∃ node : Node, node.Merges id (observationsIn rows id) ∧
      ∀ key, mergedProperty? rows id key = node.properties.find? key := by
  obtain ⟨node, hnode, hmerges⟩ := exists_node?_normalize h
  refine ⟨node, hmerges, fun key => ?_⟩
  rw [mergedProperty?, hnode, Option.bind_some]

/-- Merging follows one law for all rows: there is one node for each identifier, in the order of
first observations, and it is what its observations make of it. -/
theorem normalize_merges (rows : List Row) :
    (observedIds (rows.flatMap Row.nodes)).Nodup ∧
      Assembly.Merged (rows.flatMap Row.nodes) (normalize rows).1.nodes
        (observedIds (rows.flatMap Row.nodes)) := by
  refine ⟨nodup_observedIds _, ?_⟩
  change Assembly.Merged _ (Assembly.ofRows rows).graph.nodes _
  rw [Assembly.nodes_ofRows]
  exact Assembly.merged_foldl _

end AssetAtlas
