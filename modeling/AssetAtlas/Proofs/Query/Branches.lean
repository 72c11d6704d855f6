import AssetAtlas.Query.Compilation

/-!
The branches of a compiled program come from five builders. So what each builder gives its branches
holds of all branches, whatever the criteria say.
-/

namespace AssetAtlas.Query

/-- A property of the branches that any builder makes for a purpose. The nodes open to the internet
are only asked for in data programs. -/
structure HoldsOfBuilders (purpose : Purpose) (motive : Branch → Prop) : Prop where
  ofDefault : motive (defaultBranch purpose)
  ofNode : ∀ source f, motive (nodeBranch purpose source f)
  ofLink : ∀ source kind target f, ∀ link ∈ ["r", "r2"],
    motive (linkBranch purpose source kind target link f)
  ofPath : ∀ source target f, motive (pathBranch purpose source target f)
  ofInternet : purpose = .data → motive internetBranch

namespace HoldsOfBuilders

variable {purpose : Purpose} {motive : Branch → Prop}

theorem criterion (h : HoldsOfBuilders purpose motive) (c : Criterion) :
    ∀ b ∈ criterionBranches purpose c, motive b := by
  have hforward := h.ofLink (c.source.getD .any) c.relationshipOrAny.name? c.targetOrAny c.filters
    "r" (by decide)
  unfold criterionBranches
  dsimp only
  cases c.mode with
  | singleNode => exact List.forall_mem_singleton.mpr (h.ofNode _ _)
  | fullGraph => exact List.forall_mem_singleton.mpr (h.ofPath _ _ _)
  | relationship => exact List.forall_mem_singleton.mpr hforward
  | bidirectional =>
      dsimp only
      split
      · exact List.forall_mem_cons.mpr
          ⟨hforward, List.forall_mem_singleton.mpr (h.ofLink _ _ _ _ "r2" (by decide))⟩
      · exact List.forall_mem_singleton.mpr hforward

theorem criteria (h : HoldsOfBuilders purpose motive) (cs : List Criterion) :
    ∀ b ∈ criteriaBranches purpose cs, motive b := by
  unfold criteriaBranches
  split
  · exact List.forall_mem_singleton.mpr h.ofDefault
  · split
    · exact List.forall_mem_singleton.mpr h.ofDefault
    · intro b hb
      obtain ⟨c, -, hb⟩ := List.mem_flatMap.mp hb
      exact h.criterion c b hb

theorem program (h : HoldsOfBuilders purpose motive) (cs : List Criterion) (limit : Nat)
    (showInternet : Bool) : ∀ b ∈ (program purpose cs limit showInternet).branches, motive b := by
  cases purpose with
  | count => exact h.criteria cs
  | data =>
      refine List.forall_mem_append.mpr ⟨h.criteria cs, ?_⟩
      cases showInternet with
      | false => exact List.forall_mem_nil _
      | true => exact List.forall_mem_singleton.mpr (h.ofInternet rfl)

end HoldsOfBuilders

end AssetAtlas.Query
