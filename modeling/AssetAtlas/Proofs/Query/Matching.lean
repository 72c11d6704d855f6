import AssetAtlas.Proofs.Query.Counting
import AssetAtlas.Proofs.Query.Evaluation

/-!
What matching leaves behind. Every step of it only adds bindings, and what has to match is bound to
something. So evaluation on a property graph is a row semantics, and a program that counts answers
with the number of rows of each of its branches.
-/

namespace AssetAtlas.Query

namespace Assignment

/-- What is bound before is bound after, to the same value. -/
def Extends (τ σ : Assignment) : Prop :=
  ∀ var v, σ.find? var = some v → τ.find? var = some v

def Knows (σ : Assignment) (var : String) : Prop :=
  ∃ v, σ.find? var = some v ∧ v ≠ .null

theorem Extends.refl (σ : Assignment) : σ.Extends σ :=
  fun _ _ h => h

theorem Extends.trans {ρ τ σ : Assignment} (h : ρ.Extends τ) (h' : τ.Extends σ) : ρ.Extends σ :=
  fun var v hv => h var v (h' var v hv)

theorem Knows.mono {τ σ : Assignment} {var : String} (h : σ.Knows var) (hext : τ.Extends σ) :
    τ.Knows var := by
  obtain ⟨v, hv, hne⟩ := h
  exact ⟨v, hext var v hv, hne⟩

theorem Knows.value_ne_null {σ : Assignment} {var : String} (h : σ.Knows var) :
    σ.value var ≠ .null := by
  obtain ⟨v, hv, hne⟩ := h
  rw [value, hv]
  exact hne

theorem find?_set_self (σ : Assignment) (var : String) (v : Value) :
    (σ.set var v).find? var = some v :=
  List.lookup_cons_self

theorem find?_set_of_ne (σ : Assignment) {var other : String} (h : other ≠ var) (v : Value) :
    (σ.set var v).find? other = σ.find? other := by
  simp only [set, find?, List.lookup_cons, beq_false_of_ne h]

theorem bind?_sound {σ τ : Assignment} {var : String} {v : Value} (h : σ.bind? var v = some τ) :
    τ.Extends σ ∧ τ.find? var = some v := by
  unfold bind? at h
  split at h
  · next hfree =>
      obtain rfl := Option.some.inj h
      refine ⟨?_, find?_set_self σ var v⟩
      intro other w hw
      have hne : other ≠ var := by
        rintro rfl
        exact absurd (hfree.symm.trans hw) nofun
      rw [find?_set_of_ne σ hne]
      exact hw
  · next w hbound =>
      split at h
      · next hsame =>
          obtain rfl := Option.some.inj h
          exact ⟨.refl σ, hsame ▸ hbound⟩
      · exact absurd h nofun

theorem bind?_knows {σ τ : Assignment} {var : String} {v : Value} (h : σ.bind? var v = some τ)
    (hne : v ≠ .null) : τ.Extends σ ∧ τ.Knows var := by
  obtain ⟨hext, hvar⟩ := bind?_sound h
  exact ⟨hext, v, hvar, hne⟩

theorem extends_pad (σ : Assignment) (vars : List String) : (σ.pad vars).Extends σ := by
  intro var v hv
  unfold find? at hv ⊢
  rw [pad, List.lookup_append, hv, Option.some_or]

end Assignment

namespace PropertyGraph

variable (g : PropertyGraph)

/-! ## Bindings -/

theorem bindNode_sound {p : NodePattern} {id : Nat} {σ τ : Assignment}
    (h : g.bindNode p id σ = some τ) : τ.Extends σ ∧ τ.Knows p.var := by
  unfold bindNode at h
  split at h
  · exact Assignment.bind?_knows h nofun
  · exact absurd h nofun

theorem value_ne_null (w : Walk) (p : LinkPattern) : w.value p ≠ .null := by
  unfold Walk.value
  split <;> nofun

theorem bindLink_sound {p : LinkPattern} {w : Walk} {σ τ : Assignment}
    (h : bindLink p w σ = some τ) : τ.Extends σ ∧ ∀ var ∈ p.var.toList, τ.Knows var := by
  unfold bindLink at h
  split at h
  · next hvar =>
      obtain rfl := Option.some.inj h
      rw [hvar]
      exact ⟨.refl σ, List.forall_mem_nil _⟩
  · next var hvar =>
      obtain ⟨hext, hknows⟩ := Assignment.bind?_knows h (value_ne_null w p)
      rw [hvar]
      exact ⟨hext, List.forall_mem_singleton.mpr hknows⟩

theorem bindWalk_sound {source : NodePattern} {p : LinkPattern} {target : NodePattern} {w : Walk}
    {σ τ : Assignment} (h : g.bindWalk source p target σ w = some τ) :
    τ.Extends σ ∧ ∀ var ∈ source.var :: p.var.toList ++ [target.var], τ.Knows var := by
  unfold bindWalk at h
  obtain ⟨σ₁, h₁, h⟩ := Option.bind_eq_some_iff.mp h
  obtain ⟨σ₂, h₂, h₃⟩ := Option.bind_eq_some_iff.mp h
  obtain ⟨hext₁, hsource⟩ := g.bindNode_sound h₁
  obtain ⟨hext₂, hlink⟩ := bindLink_sound h₂
  obtain ⟨hext₃, htarget⟩ := g.bindNode_sound h₃
  refine ⟨hext₃.trans (hext₂.trans hext₁), ?_⟩
  intro var hvar
  simp only [List.cons_append, List.mem_cons, List.mem_append, List.not_mem_nil, or_false] at hvar
  rcases hvar with rfl | hvar | rfl
  · exact hsource.mono (hext₃.trans hext₂)
  · exact (hlink var hvar).mono hext₃
  · exact htarget

theorem extend_sound {pattern : Pattern} {σ τ : Assignment} (h : τ ∈ g.extend σ pattern) :
    τ.Extends σ ∧ ∀ var ∈ pattern.vars, τ.Knows var := by
  cases pattern with
  | node p =>
      obtain ⟨n, -, hn⟩ := List.mem_filterMap.mp h
      obtain ⟨hext, hknows⟩ := g.bindNode_sound hn
      exact ⟨hext, List.forall_mem_singleton.mpr hknows⟩
  | link source p target =>
      obtain ⟨w, -, hw⟩ := List.mem_filterMap.mp h
      exact g.bindWalk_sound hw
  | path var source p target =>
      obtain ⟨w, -, hw⟩ := List.mem_filterMap.mp h
      obtain ⟨σ', hwalk, hpath⟩ := Option.bind_eq_some_iff.mp hw
      obtain ⟨hext, hknows⟩ := g.bindWalk_sound hwalk
      obtain ⟨hext', hpathKnows⟩ := Assignment.bind?_knows hpath nofun
      refine ⟨hext'.trans hext, List.forall_mem_cons.mpr ⟨hpathKnows, ?_⟩⟩
      intro other hother
      exact (hknows other hother).mono hext'

theorem matchRows_sound {m : Match} {condition : Option Predicate} {σ τ : Assignment}
    (h : τ ∈ g.matchRows m condition σ) :
    τ.Extends σ ∧ (m.isOptional = false → ∀ var ∈ m.pattern.vars, τ.Knows var) := by
  unfold matchRows at h
  dsimp only at h
  split at h
  · next hpad =>
      obtain rfl := List.mem_singleton.mp h
      refine ⟨Assignment.extends_pad σ _, ?_⟩
      intro hrequired
      rw [hrequired] at hpad
      exact absurd hpad nofun
  · obtain ⟨hext, hknows⟩ := g.extend_sound (List.mem_filter.mp h).1
    exact ⟨hext, fun _ => hknows⟩

theorem matchRows_required (pattern : Pattern) (σ : Assignment) :
    g.matchRows (required pattern) none σ = g.extend σ pattern :=
  List.filter_eq_self.mpr fun _ _ => rfl

theorem length_matchRows_optional (pattern : Pattern) (σ : Assignment) :
    (g.matchRows ⟨true, pattern⟩ none σ).length = max 1 (g.extend σ pattern).length := by
  have hfound : (g.extend σ pattern).filter (fun τ => Option.all (g.holds τ) none) =
      g.extend σ pattern := List.filter_eq_self.mpr fun _ _ => rfl
  unfold matchRows
  simp only [hfound, Bool.true_and, List.isEmpty_iff]
  split
  · next hnone => simp [hnone]
  · next hsome =>
      have hpos := List.length_pos_iff.mpr hsome
      omega

theorem matchAll_sound {condition : Option Predicate} {patterns : List Match} {σ τ : Assignment}
    (h : τ ∈ g.matchAll condition patterns σ) :
    τ.Extends σ ∧
      ∀ m ∈ patterns, m.isOptional = false → ∀ var ∈ m.pattern.vars, τ.Knows var := by
  induction patterns generalizing σ with
  | nil =>
      obtain rfl := List.mem_singleton.mp h
      exact ⟨.refl _, List.forall_mem_nil _⟩
  | cons m rest ih =>
      -- the last pattern is matched with the condition, the others without
      cases rest with
      | nil =>
          obtain ⟨hext, hknows⟩ := g.matchRows_sound h
          exact ⟨hext, List.forall_mem_singleton.mpr hknows⟩
      | cons next rest =>
          obtain ⟨σ', hfirst, hrest⟩ := List.mem_flatMap.mp h
          obtain ⟨hext, hknows⟩ := g.matchRows_sound hfirst
          obtain ⟨hext', hknows'⟩ := ih hrest
          refine ⟨hext'.trans hext, List.forall_mem_cons.mpr ⟨?_, hknows'⟩⟩
          intro hrequired var hvar
          exact (hknows hrequired var hvar).mono hext'

theorem unwind_sound {u : Unwinding} {σ τ : Assignment} (h : τ ∈ σ.unwind u) :
    τ.Knows u.var ∧ ∀ var, σ.Knows var → τ.Knows var := by
  unfold Assignment.unwind at h
  split at h
  · obtain ⟨id, -, rfl⟩ := List.mem_map.mp h
    have hunwound : (σ.set u.var (.link id)).Knows u.var :=
      ⟨_, Assignment.find?_set_self _ _ _, nofun⟩
    refine ⟨hunwound, ?_⟩
    rintro var ⟨v, hv, hne⟩
    -- unwinding may hide a variable of the same name, by a relationship
    by_cases hvar : var = u.var
    · rw [hvar]
      exact hunwound
    · exact ⟨v, (Assignment.find?_set_of_ne σ hvar _).trans hv, hne⟩
  · exact absurd h List.not_mem_nil

theorem rows_knows {b : Branch} {var : String} (hbinds : b.Binds var) {σ : Assignment}
    (hσ : σ ∈ g.rows b.patterns b.condition b.unwinding) : σ.Knows var := by
  unfold rows at hσ
  cases hunwinding : b.unwinding with
  | none =>
      rw [hunwinding] at hσ
      rcases hbinds with ⟨m, hm, hrequired, hvar⟩ | ⟨u, hu, -⟩
      · exact (g.matchAll_sound hσ).2 m hm hrequired var hvar
      · exact absurd (hunwinding.symm.trans hu) nofun
  | some u =>
      rw [hunwinding] at hσ
      obtain ⟨τ, hτ, hσ⟩ := List.mem_flatMap.mp hσ
      obtain ⟨hunwound, hkept⟩ := unwind_sound hσ
      rcases hbinds with ⟨m, hm, hrequired, hvar⟩ | ⟨u', hu, rfl⟩
      · exact hkept var ((g.matchAll_sound hτ).2 m hm hrequired var hvar)
      · obtain rfl := Option.some.inj (hunwinding.symm.trans hu)
        exact hunwound

def rowSemantics : RowSemantics where
  Row := Assignment
  rows := g.rows
  isNull σ t := g.termValue σ t = .null
  isNull_eq_false := fun _ _ hbinds _ hσ =>
    decide_eq_false (g.rows_knows hbinds hσ).value_ne_null

/-! ## Answers -/

theorem branchAnswers_of_count {b : Branch} {t : Term} (h : b.columns = .count t) :
    g.branchAnswers b = [.count (g.rowSemantics.counted b)] := by
  rw [branchAnswers, RowSemantics.counted, h]
  simp only [decide_not]
  rfl

theorem length_branchAnswers {b : Branch} {n r m : Term} (h : b.columns = .triple n r m) :
    (g.branchAnswers b).length = g.rowSemantics.rowCount b := by
  rw [branchAnswers, h]
  exact List.length_map _

theorem unite_of_all {p : Program} (h : p.union = .all) :
    g.unite p = p.branches.flatMap g.branchAnswers := by
  obtain ⟨branches, union, limit⟩ := p
  obtain rfl : union = .all := h
  match branches with
  | [] => rfl
  | [b] => exact (List.flatMap_singleton g.branchAnswers b).symm
  | _ :: _ :: _ => rfl

theorem length_unite_le (p : Program) :
    (g.unite p).length ≤ (p.branches.map fun b => (g.branchAnswers b).length).sum := by
  unfold unite
  split
  · next hone => simp [hone]
  · rw [← List.length_flatMap]
    exact (List.dedup_sublist _).length_le
  · exact Nat.le_of_eq List.length_flatMap

end PropertyGraph

end AssetAtlas.Query
