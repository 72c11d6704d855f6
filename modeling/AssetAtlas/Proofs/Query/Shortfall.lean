import AssetAtlas.Proofs.Query.Branches
import AssetAtlas.Proofs.Query.Matching

/-!
How far a count program falls short of its data program on a property graph. It leaves out the other
direction of a criterion, and where everything is asked for it counts the nodes and not their
relationships. `uncounted` says how many rows that can be; there are no others.
-/

namespace AssetAtlas.Query

def Purpose.Suits : Purpose → Columns → Prop
  | .data, .triple _ _ _ => True
  | .count, .count _ => True
  | _, _ => False

theorem Purpose.suits_columns (purpose : Purpose) (var : String) (n r m : Term) :
    purpose.Suits (purpose.columns var (.triple n r m)) := by
  cases purpose <;> exact trivial

theorem suits_builders (purpose : Purpose) :
    HoldsOfBuilders purpose fun b => purpose.Suits b.columns where
  ofDefault := by cases purpose <;> exact trivial
  ofNode := fun _ _ => purpose.suits_columns _ _ _ _
  ofLink := fun _ _ _ _ _ _ => purpose.suits_columns _ _ _ _
  ofPath := fun _ _ _ => purpose.suits_columns _ _ _ _
  ofInternet := by
    rintro rfl
    exact trivial

def asksForEverything : List Criterion → Bool
  | [] => true
  | c :: _ => c.isBlank

theorem criteriaBranches_of_everything {criteria : List Criterion}
    (h : asksForEverything criteria = true) (purpose : Purpose) :
    criteriaBranches purpose criteria = [defaultBranch purpose] := by
  match criteria, h with
  | [], _ => rfl
  | c :: rest, h => exact if_pos h

/-- The criteria ask for something, and never in both directions. -/
structure OneWay (criteria : List Criterion) : Prop where
  not_everything : asksForEverything criteria = false
  forward_only : ∀ c ∈ criteria, c.mode = .bidirectional → c.relationshipOrAny = .any

theorem isReverse_criterionBranches {c : Criterion}
    (h : c.mode = .bidirectional → c.relationshipOrAny = .any) :
    ∀ b ∈ criterionBranches .data c, b.isReverse = false := by
  unfold criterionBranches
  dsimp only
  cases hmode : c.mode with
  | singleNode | fullGraph => exact List.forall_mem_singleton.mpr rfl
  | relationship =>
      refine List.forall_mem_singleton.mpr ?_
      rw [isReverse_linkBranch]
      decide
  | bidirectional =>
      rw [h hmode]
      refine List.forall_mem_singleton.mpr ?_
      rw [isReverse_linkBranch]
      decide

theorem OneWay.isReverse_eq_false {criteria : List Criterion} (h : OneWay criteria) :
    ∀ b ∈ criteriaBranches .data criteria, b.isReverse = false := by
  obtain ⟨hsome, hforward⟩ := h
  match criteria, hsome with
  | c :: rest, hc =>
      rw [criteriaBranches_cons hc]
      intro b hb
      obtain ⟨c', hc', hb⟩ := List.mem_flatMap.mp hb
      exact isReverse_criterionBranches (hforward c' (List.mem_filter.mp hc').1) b hb

theorem criterionBranches_ne_nil (purpose : Purpose) (c : Criterion) :
    criterionBranches purpose c ≠ [] := by
  unfold criterionBranches
  dsimp only
  cases c.mode with
  | singleNode | fullGraph | relationship => exact List.cons_ne_nil _ _
  | bidirectional =>
      dsimp only
      split <;> exact List.cons_ne_nil _ _

theorem criteriaBranches_ne_nil (purpose : Purpose) (criteria : List Criterion) :
    criteriaBranches purpose criteria ≠ [] := by
  cases hall : asksForEverything criteria with
  | true =>
      rw [criteriaBranches_of_everything hall]
      exact List.cons_ne_nil _ _
  | false =>
      match criteria, hall with
      | c :: rest, hc =>
          rw [criteriaBranches_cons hc]
          intro hnone
          have hmem : c ∈ (c :: rest).filter (!·.isBlank) :=
            List.mem_filter.mpr ⟨List.mem_cons_self, (Bool.not_eq_true' _).mpr hc⟩
          exact criterionBranches_ne_nil purpose c (List.flatMap_eq_nil_iff.mp hnone c hmem)

namespace PropertyGraph

variable (g : PropertyGraph)

def outdegree (id : Nat) : Nat :=
  g.links.countP (·.source = id)

/-! ## The whole graph -/

theorem extend_node (var : String) (σ : Assignment) (hfree : σ.find? var = none) :
    g.extend σ (.node ⟨var, none⟩) = g.nodes.map fun n => σ.set var (.node n.id) := by
  have hbind (n : StoredNode) :
      g.bindNode ⟨var, none⟩ n.id σ = some (σ.set var (.node n.id)) := by
    change σ.bind? var (.node n.id) = _
    rw [Assignment.bind?, hfree]
  rw [extend]
  simp only [hbind, List.filterMap_eq_map']

theorem length_extend_link (id : Nat) :
    (g.extend (Assignment.set {} "n" (.node id))
      (.link ⟨"n", none⟩ ⟨some "r", none, none⟩ ⟨"m", none⟩)).length = g.outdegree id := by
  have hwalks : g.walks ⟨some "r", none, none⟩ = g.links.map fun l => ⟨l.source, [l]⟩ :=
    List.filter_eq_self.mpr fun w _ => List.all_eq_true.mpr fun _ _ => rfl
  rw [extend, hwalks, List.filterMap_map, List.length_filterMap_eq_countP, outdegree]
  refine List.countP_congr fun l _ => ?_
  -- the source is bound already, the other two variables are free
  by_cases hsource : l.source = id
  · subst hsource
    simp [bindWalk, bindNode, bindLink, Assignment.bind?, Assignment.set, Assignment.find?,
      List.lookup_cons]
  · have hne : ¬ id = l.source := fun h => hsource h.symm
    simp [bindWalk, bindNode, Assignment.bind?, Assignment.set, Assignment.find?, hsource, hne]

theorem counted_defaultBranch :
    g.rowSemantics.counted (defaultBranch .count) = g.nodes.length := by
  have hbinds : (defaultBranch .count).Binds "n" :=
    .inl ⟨_, List.mem_cons_self, rfl, List.mem_cons_self⟩
  rw [g.rowSemantics.counted_of_binds rfl hbinds]
  change (g.matchRows (required (.node ⟨"n", none⟩)) none {}).length = _
  rw [matchRows_required, extend_node _ _ _ rfl, List.length_map]

theorem rowCount_defaultBranch : g.rowSemantics.rowCount (defaultBranch .data) =
    g.nodes.length + (g.nodes.map fun n => g.outdegree n.id - 1).sum := by
  -- a node has one row if no relationship starts there, else one for each
  change ((g.matchRows (required (.node ⟨"n", none⟩)) none {}).flatMap
    (g.matchRows ⟨true, _⟩ none)).length = _
  rw [matchRows_required, extend_node _ _ _ rfl, List.length_flatMap, List.map_map]
  induction g.nodes with
  | nil => rfl
  | cons n nodes ih =>
      rw [List.map_cons, List.sum_cons, ih, List.map_cons, List.sum_cons, List.length_cons,
        Function.comp_apply, length_matchRows_optional, length_extend_link]
      omega

/-! ## Programs -/

/-- How many rows of the data program the count program may leave out. -/
def uncounted (criteria : List Criterion) : Nat :=
  if asksForEverything criteria then (g.nodes.map fun n => g.outdegree n.id - 1).sum
  else (((criteriaBranches .data criteria).filter Branch.isReverse).map
    g.rowSemantics.rowCount).sum

theorem uncounted_of_oneWay {criteria : List Criterion} (h : OneWay criteria) :
    g.uncounted criteria = 0 := by
  have hreverse : (criteriaBranches .data criteria).filter Branch.isReverse = [] := by
    rw [List.filter_eq_nil_iff]
    intro b hb
    rw [h.isReverse_eq_false b hb]
    decide
  rw [uncounted, h.not_everything, hreverse]
  rfl

def counts (criteria : List Criterion) : List Nat :=
  (criteriaBranches .count criteria).map g.rowSemantics.counted

theorem eval_count (criteria : List Criterion) (limit : Nat) (showInternet : Bool) :
    g.eval (program .count criteria limit showInternet) = (g.counts criteria).map .count := by
  have hcount : ∀ b ∈ criteriaBranches .count criteria,
      g.branchAnswers b = [.count (g.rowSemantics.counted b)] := by
    intro b hb
    have hsuits := (suits_builders .count).criteria criteria b hb
    match hcolumns : b.columns with
    | .count t => exact g.branchAnswers_of_count hcolumns
    | .triple _ _ _ =>
        rw [hcolumns] at hsuits
        exact hsuits.elim
  change g.unite (countProgram criteria) = _
  rw [g.unite_of_all rfl, counts, List.map_map]
  change (criteriaBranches .count criteria).flatMap g.branchAnswers = _
  rw [List.map_eq_flatMap]
  exact List.flatMap_congr hcount

theorem sum_length_branchAnswers (criteria : List Criterion) :
    ((criteriaBranches .data criteria).map fun b => (g.branchAnswers b).length).sum =
      ((criteriaBranches .data criteria).map g.rowSemantics.rowCount).sum := by
  refine congrArg List.sum (List.map_congr_left fun b hb => ?_)
  have hsuits := (suits_builders .data).criteria criteria b hb
  match hcolumns : b.columns with
  | .triple _ _ _ => exact g.length_branchAnswers hcolumns
  | .count _ =>
      rw [hcolumns] at hsuits
      exact hsuits.elim

theorem length_unite_data_le (criteria : List Criterion) (limit : Nat) :
    (g.unite (program .data criteria limit false)).length ≤
      (g.counts criteria).sum + g.uncounted criteria := by
  have hle := g.length_unite_le (program .data criteria limit false)
  have hbranches : (program .data criteria limit false).branches =
      criteriaBranches .data criteria := List.append_nil _
  rw [hbranches, sum_length_branchAnswers] at hle
  refine Nat.le_trans hle (Nat.le_of_eq ?_)
  unfold uncounted counts
  split
  · next hall =>
      rw [criteriaBranches_of_everything hall, criteriaBranches_of_everything hall]
      simp only [List.map_cons, List.map_nil, List.sum_cons, List.sum_nil, Nat.add_zero]
      rw [rowCount_defaultBranch, counted_defaultBranch]
  · next hsome =>
      match criteria, hsome with
      | [], hsome => exact absurd rfl hsome
      | c :: rest, hsome =>
          have hc : c.isBlank = false := Bool.eq_false_iff.mpr hsome
          -- the branches fall into those that have a partner and those that reverse one
          have hparts :=
            List.filter_append_perm Branch.isReverse (criteriaBranches .data (c :: rest))
          rw [g.rowSemantics.sum_counted (criteriaBranches_counts hc rest), Nat.add_comm,
            ← List.sum_append, ← List.map_append]
          exact (hparts.map _).sum_nat.symm

end PropertyGraph

end AssetAtlas.Query
