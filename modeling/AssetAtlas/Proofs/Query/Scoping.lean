import AssetAtlas.Proofs.Query.Branches
import AssetAtlas.Proofs.Query.Contents

/-!
The scopes of a branch. Its condition and its unwinding stand behind the patterns and may use the
variables that these bind; the columns may use the unwound variable too. No branch of a compiled
program uses a variable that is not bound.
-/

namespace AssetAtlas.Query

namespace Predicate

theorem vars_of_mem_all {members : List Predicate} {p : Predicate} (h : p ∈ all members) :
    p.vars = members.flatMap vars := by
  match members, h with
  | [p], rfl => exact (List.flatMap_singleton vars p).symm
  | p :: q :: rest, rfl => exact vars_and (p :: q :: rest)

theorem vars_of_mem_any {members : List Predicate} {p : Predicate} (h : p ∈ any members) :
    p.vars = members.flatMap vars := by
  match members, h with
  | [p], rfl => exact (List.flatMap_singleton vars p).symm
  | p :: q :: rest, rfl => exact vars_or (p :: q :: rest)

end Predicate

theorem vars_sidePredicate (a : Attribute) (value var : String) (b : Bearing) :
    ∀ v ∈ (sidePredicate a value var b).vars, v = var := by
  cases b with
  | concrete kind => simp [sidePredicate]
  | ambiguous =>
    cases a <;> simp [sidePredicate, VulnerabilityKind.all, VulnerabilityKind.property]

theorem exists_of_mem_scopedSides {sides : List Side} {side : String × Bearing}
    (h : side ∈ scopedSides sides) : ∃ s ∈ sides, s.var = side.1 := by
  have hbearing : side ∈ sides.filterMap fun s =>
      (Bearing.ofSelector? s.selector).map fun b => (s.var, b) := by
    unfold scopedSides at h
    dsimp only at h
    split at h
    · exact (List.mem_filter.mp h).1
    · exact h
  obtain ⟨s, hs, hside⟩ := List.mem_filterMap.mp hbearing
  obtain ⟨b, -, rfl⟩ := Option.map_eq_some_iff.mp hside
  exact ⟨s, hs, rfl⟩

theorem exists_of_mem_filterPredicate {f : Filters} {sides : List Side} {p : Predicate}
    (h : p ∈ filterPredicate f sides) {v : String} (hv : v ∈ p.vars) :
    ∃ s ∈ sides, s.var = v := by
  rw [Predicate.vars_of_mem_all h] at hv
  obtain ⟨q, hq, hv⟩ := List.mem_flatMap.mp hv
  obtain ⟨⟨a, value⟩, -, hq⟩ := List.mem_filterMap.mp hq
  rw [Predicate.vars_of_mem_any hq] at hv
  obtain ⟨r, hr, hv⟩ := List.mem_flatMap.mp hv
  obtain ⟨side, hside, rfl⟩ := List.mem_map.mp hr
  rw [vars_sidePredicate _ _ _ _ v hv]
  exact exists_of_mem_scopedSides hside

namespace Branch

/-- The variables that the patterns of a branch bind. -/
def matchedVars (b : Branch) : List String :=
  b.patterns.flatMap (·.pattern.vars)

/-- The variables that are bound where the columns stand. -/
def boundVars (b : Branch) : List String :=
  b.matchedVars ++ b.unwinding.toList.map Unwinding.var

structure WellScoped (b : Branch) : Prop where
  condition : ∀ p ∈ b.condition, p.vars ⊆ b.matchedVars
  unwinding : ∀ u ∈ b.unwinding, u.path ∈ b.matchedVars
  columns : b.columns.vars ⊆ b.boundVars

theorem wellScoped_of_sides {b : Branch} {f : Filters} (sides : List Side)
    (hcondition : b.condition = filterPredicate f sides)
    (hsides : sides.map Side.var ⊆ b.matchedVars)
    (hunwinding : ∀ u ∈ b.unwinding, u.path ∈ b.matchedVars)
    (hcolumns : b.columns.vars ⊆ b.boundVars) : b.WellScoped where
  condition := by
    intro p hp v hv
    rw [hcondition] at hp
    obtain ⟨s, hs, rfl⟩ := exists_of_mem_filterPredicate hp hv
    exact hsides (List.mem_map_of_mem hs)
  unwinding := hunwinding
  columns := hcolumns

theorem WellScoped.vars_subset {b : Branch} (h : b.WellScoped) : b.vars ⊆ b.boundVars := by
  have hmatched : b.matchedVars ⊆ b.boundVars := List.subset_append_left _ _
  refine List.append_subset.mpr ⟨List.append_subset.mpr ⟨List.append_subset.mpr
    ⟨hmatched, ?_⟩, ?_⟩, h.columns⟩
  · intro v hv
    obtain ⟨p, hp, hv⟩ := List.mem_flatMap.mp hv
    exact hmatched (h.condition p (Option.mem_toList.mp hp) hv)
  · intro v hv
    obtain ⟨u, hu, hv⟩ := List.mem_flatMap.mp hv
    rcases List.mem_cons.mp hv with rfl | hv
    · exact hmatched (h.unwinding u (Option.mem_toList.mp hu))
    · rw [List.mem_singleton.mp hv]
      exact List.mem_append_right _ (List.mem_map_of_mem hu)

end Branch

theorem Purpose.vars_columns_subset (purpose : Purpose) {var : String} {columns : Columns}
    {vars : List String} (hvar : var ∈ vars) (hcolumns : columns.vars ⊆ vars) :
    (purpose.columns var columns).vars ⊆ vars := by
  cases purpose with
  | data => exact hcolumns
  | count => exact List.cons_subset.mpr ⟨hvar, List.nil_subset vars⟩

theorem wellScoped_defaultBranch (purpose : Purpose) : (defaultBranch purpose).WellScoped := by
  cases purpose with
  | data => exact ⟨nofun, nofun, (by decide : ["n", "r", "m"] ⊆ ["n", "n", "r", "m"])⟩
  | count => exact ⟨nofun, nofun, List.Subset.refl ["n"]⟩

theorem wellScoped_nodeBranch (purpose : Purpose) (source : Selector) (f : Filters) :
    (nodeBranch purpose source f).WellScoped := by
  refine Branch.wellScoped_of_sides [⟨"n", source⟩] rfl ?_ nofun ?_
  · exact List.Subset.refl ["n"]
  · exact purpose.vars_columns_subset List.mem_cons_self (List.Subset.refl ["n"])

theorem wellScoped_linkBranch (purpose : Purpose) (source : Selector) (kind : Option String)
    (target : Selector) (link : String) (f : Filters) :
    (linkBranch purpose source kind target link f).WellScoped := by
  have hmatched : ["n", link, "m"] ⊆ (linkBranch purpose source kind target link f).matchedVars :=
    List.subset_cons_self "n" _
  have hbound := List.Subset.trans hmatched (List.subset_append_left _ [])
  refine Branch.wellScoped_of_sides [⟨"n", source⟩, ⟨"m", target⟩] rfl ?_ nofun ?_
  · exact List.Subset.trans (List.cons_subset_cons "n" (List.subset_cons_self link _)) hmatched
  · exact purpose.vars_columns_subset (hbound (by simp)) hbound

theorem wellScoped_pathBranch (purpose : Purpose) (source target : Selector) (f : Filters) :
    (pathBranch purpose source target f).WellScoped := by
  refine Branch.wellScoped_of_sides [⟨"src", source⟩, ⟨"dst", target⟩] rfl ?_ ?_ ?_
  · exact (by decide : ["src", "dst"] ⊆ ["p", "src", "dst"])
  · rintro u ⟨⟩
    exact (by decide : "p" ∈ ["p", "src", "dst"])
  · refine purpose.vars_columns_subset ?_ ?_
    · exact (by decide : "r" ∈ ["p", "src", "dst", "r"])
    · exact (by decide : ["r", "r", "r"] ⊆ ["p", "src", "dst", "r"])

theorem wellScoped_internetBranch : internetBranch.WellScoped where
  condition := by
    rintro p ⟨⟩
    simp [Exposure.anyPredicate, Exposure.all, Exposure.predicate, internetBranch,
      Branch.matchedVars, required, Pattern.vars]
  unwinding := nofun
  columns := List.Subset.refl ["n"]

theorem wellScoped_builders (purpose : Purpose) : HoldsOfBuilders purpose Branch.WellScoped where
  ofDefault := wellScoped_defaultBranch purpose
  ofNode := wellScoped_nodeBranch purpose
  ofLink := fun source kind target f link _ =>
    wellScoped_linkBranch purpose source kind target link f
  ofPath := wellScoped_pathBranch purpose
  ofInternet := fun _ => wellScoped_internetBranch

end AssetAtlas.Query
