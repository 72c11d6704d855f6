import AssetAtlas.Proofs.Query.Scoping

/-!
The variables of compiled programs. They are a few fixed words, whatever the criteria say; so a
variable can always be written as it is.
-/

namespace AssetAtlas.Query

def variableNames : List String := ["n", "m", "r", "r2", "p", "src", "dst"]

theorem isWord_of_mem_variableNames : ∀ v ∈ variableNames, isWord v = true := by
  decide

theorem boundVars_builders (purpose : Purpose) :
    HoldsOfBuilders purpose fun b => b.boundVars ⊆ variableNames where
  ofDefault := by cases purpose <;> decide
  ofNode := fun _ _ => (by decide : ["n"] ⊆ variableNames)
  ofLink := by
    intro source kind target f link hlink
    have hname : link ∈ variableNames := (by decide : ["r", "r2"] ⊆ variableNames) hlink
    change ["n", "n", link, "m"] ⊆ variableNames
    simp [hname, (by decide : "n" ∈ variableNames), (by decide : "m" ∈ variableNames)]
  ofPath := fun _ _ _ => (by decide : ["p", "src", "dst", "r"] ⊆ variableNames)
  ofInternet := fun _ => (by decide : ["n"] ⊆ variableNames)

theorem vars_program (purpose : Purpose) (criteria : List Criterion) (limit : Nat)
    (showInternet : Bool) :
    ∀ b ∈ (program purpose criteria limit showInternet).branches, b.vars ⊆ variableNames :=
  fun b hb => List.Subset.trans
    ((wellScoped_builders purpose).program criteria limit showInternet b hb).vars_subset
    ((boundVars_builders purpose).program criteria limit showInternet b hb)

/-- Every variable of a compiled program can be written as a word: none comes from outside. -/
theorem hasWordVariables_program (purpose : Purpose) (criteria : List Criterion) (limit : Nat)
    (showInternet : Bool) : (program purpose criteria limit showInternet).HasWordVariables :=
  fun b hb v hv =>
    isWord_of_mem_variableNames v (vars_program purpose criteria limit showInternet b hb hv)

end AssetAtlas.Query
