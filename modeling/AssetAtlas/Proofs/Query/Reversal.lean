import Mathlib.Data.List.Dedup
import Mathlib.Logic.Equiv.Basic
import AssetAtlas.Proofs.Query.Columns
import AssetAtlas.Proofs.Query.Renaming

/-!
A bidirectional criterion asks for the relationships from its source to its target and for those
back. So it does not matter which of its sides is called the source: exchanging them exchanges the
two branches, up to the name of the relationship, and the union of the branches shows the same rows.
-/

namespace AssetAtlas

namespace Criterion

/-- One criterion is another with its sides exchanged. A side that is not set is open. -/
structure Reverses (c' c : Criterion) : Prop where
  source : c'.source.getD .any = c.targetOrAny
  target : c'.targetOrAny = c.source.getD .any
  relationship : c'.relationship = c.relationship
  filters : c'.filters = c.filters
  mode : c'.mode = c.mode

def reversed (c : Criterion) : Criterion :=
  { c with source := some c.targetOrAny, target := c.source }

theorem reversed_reverses (c : Criterion) : c.reversed.Reverses c := by
  constructor <;> rfl

theorem Reverses.relationshipOrAny_eq {c c' : Criterion} (h : c'.Reverses c) :
    c'.relationshipOrAny = c.relationshipOrAny := by
  rw [relationshipOrAny, h.relationship, relationshipOrAny]

end Criterion

namespace Query

/-! ## The two directions -/

/-- The relationships from the source of a criterion to its target. -/
def forwardBranch (purpose : Purpose) (c : Criterion) : Branch :=
  linkBranch purpose (c.source.getD .any) c.relationshipOrAny.name? c.targetOrAny "r" c.filters

/-- The relationships from the target of a criterion to its source. -/
def reverseBranch (c : Criterion) : Branch :=
  linkBranch .data c.targetOrAny c.relationshipOrAny.name? (c.source.getD .any) "r2" c.filters

/-- The names of the relationship of a forward and a reverse branch, exchanged. -/
def swapLinks : Equiv.Perm String := Equiv.swap "r" "r2"

theorem swapLinks_sides (v : String) (hv : v ∈ ["n", "m"]) : swapLinks v = v := by
  simp only [List.mem_cons, List.not_mem_nil, or_false] at hv
  rcases hv with rfl | rfl <;> exact Equiv.swap_apply_of_ne_of_ne (by decide) (by decide)

/-- The condition for the filters speaks about the two nodes; the name of the relationship is free. -/
theorem rename_linkBranch {ρ : String → String} (hρ : ∀ v ∈ ["n", "m"], ρ v = v)
    (purpose : Purpose) (source : Selector) (kind : Option String) (target : Selector)
    (link : String) (f : Filters) :
    (linkBranch purpose source kind target link f).rename ρ =
      linkBranch purpose source kind target (ρ link) f := by
  have hn : ρ "n" = "n" := hρ "n" (by simp)
  have hm : ρ "m" = "m" := hρ "m" (by simp)
  have hcondition : (filterPredicate f [⟨"n", source⟩, ⟨"m", target⟩]).map (Predicate.rename ρ) =
      filterPredicate f [⟨"n", source⟩, ⟨"m", target⟩] := by
    cases hp : filterPredicate f [⟨"n", source⟩, ⟨"m", target⟩] with
    | none => rfl
    | some p =>
        refine congrArg some (p.rename_eq_self fun v hv => ?_)
        obtain ⟨s, hs, rfl⟩ := exists_of_mem_filterPredicate hp hv
        exact hρ s.var (List.mem_map_of_mem hs)
  have hcolumns : (purpose.columns link (.triple (.var "n") (.var link) (.var "m"))).rename ρ =
      purpose.columns (ρ link) (.triple (.var "n") (.var (ρ link)) (.var "m")) := by
    cases purpose <;> simp [Purpose.columns, Columns.rename, Term.rename, hn, hm]
  simp only [linkBranch, Branch.rename, hcondition, hcolumns]
  simp [required, Match.rename, Pattern.rename, NodePattern.rename, LinkPattern.rename, hn, hm]

/-- A branch shows its nodes and its relationship in the columns `n`, `r` and `m`. -/
def Branch.ShowsTriple (b : Branch) : Prop :=
  columnNames? b.tokens = some ["n", "r", "m"] ∧
    ∃ link ∈ ["r", "r2"], b.columns = .triple (.var "n") (.var link) (.var "m")

theorem showsTriple_linkBranch (source : Selector) (kind : Option String) (target : Selector)
    (f : Filters) {link : String} (hlink : link ∈ ["r", "r2"]) :
    (linkBranch .data source kind target link f).ShowsTriple := by
  have hsuits : Purpose.data.Suits (linkBranch .data source kind target link f).columns := trivial
  have hvars : "RETURN" ∉ (linkBranch .data source kind target link f).columns.vars := by
    have hreturn : "RETURN" ≠ link := by
      rintro rfl
      exact absurd hlink (by decide)
    simpa [linkBranch, Purpose.columns, Columns.vars, Term.vars] using hreturn
  exact ⟨Branch.columnNames?_tokens hsuits hvars, link, hlink, rfl⟩

section

variable {c c' : Criterion} (h : c'.Reverses c)

include h

theorem forwardBranch_of_reverses :
    forwardBranch .data c' = (reverseBranch c).rename swapLinks := by
  rw [reverseBranch, rename_linkBranch swapLinks_sides, forwardBranch, h.source, h.target,
    h.filters, h.relationshipOrAny_eq]
  exact congrArg (linkBranch _ _ _ _ · _) (Equiv.swap_apply_right "r" "r2").symm

theorem reverseBranch_of_reverses :
    reverseBranch c' = (forwardBranch .data c).rename swapLinks := by
  rw [forwardBranch, rename_linkBranch swapLinks_sides, reverseBranch, h.source, h.target,
    h.filters, h.relationshipOrAny_eq]
  exact congrArg (linkBranch _ _ _ _ · _) (Equiv.swap_apply_left "r" "r2").symm

end

theorem criterionBranches_one_way {purpose : Purpose} {c : Criterion}
    (hmode : c.mode = .bidirectional) (h : purpose = .count ∨ c.relationshipOrAny = .any) :
    criterionBranches purpose c = [forwardBranch purpose c] := by
  unfold criterionBranches
  rw [hmode]
  dsimp only
  rw [if_neg]
  · rfl
  · rcases h with rfl | hany
    · simp
    · simp [hany, Selector.name?]

theorem criterionBranches_both_ways {c : Criterion} {kind : String}
    (hmode : c.mode = .bidirectional) (hkind : c.relationship = some (.named kind)) :
    criterionBranches .data c = [forwardBranch .data c, reverseBranch c] := by
  have hname : c.relationshipOrAny.name? = some kind := by
    rw [Criterion.relationshipOrAny, hkind]
    rfl
  unfold criterionBranches
  rw [hmode]
  dsimp only
  rw [if_pos (by simp [hname])]
  rfl

/-! ## The union of both -/

namespace PropertyGraph

variable (g : PropertyGraph)

theorem unite_of_distinct {p : Program} (hunion : p.union = .distinct)
    (hmany : 1 < p.branches.length) : g.unite p = (p.branches.flatMap g.branchAnswers).dedup := by
  obtain ⟨branches, union, limit⟩ := p
  obtain rfl : union = .distinct := hunion
  match branches, hmany with
  | _ :: _ :: _, _ => rfl

/-- A union without equal rows is known, up to their order, from the rows that it shows. -/
theorem unite_perm {p q : Program} (hp : p.union = .distinct) (hq : q.union = .distinct)
    (hpmany : 1 < p.branches.length) (hqmany : 1 < q.branches.length)
    (h : ∀ a, a ∈ p.branches.flatMap g.branchAnswers ↔ a ∈ q.branches.flatMap g.branchAnswers) :
    (g.unite p).Perm (g.unite q) := by
  rw [g.unite_of_distinct hp hpmany, g.unite_of_distinct hq hqmany]
  refine (List.perm_ext_iff_of_nodup (List.nodup_dedup _) (List.nodup_dedup _)).mpr fun a => ?_
  rw [List.mem_dedup, List.mem_dedup]
  exact h a

variable {g}

theorem mem_answers_reverses {c c' : Criterion} (h : c'.Reverses c) (a : Answer) :
    a ∈ [forwardBranch .data c, reverseBranch c].flatMap g.branchAnswers ↔
      a ∈ [forwardBranch .data c', reverseBranch c'].flatMap g.branchAnswers := by
  have hforward : g.branchAnswers (forwardBranch .data c') = g.branchAnswers (reverseBranch c) := by
    rw [forwardBranch_of_reverses h, g.branchAnswers_rename swapLinks.injective]
  have hreverse : g.branchAnswers (reverseBranch c') = g.branchAnswers (forwardBranch .data c) := by
    rw [reverseBranch_of_reverses h, g.branchAnswers_rename swapLinks.injective]
  simp only [List.flatMap_cons, List.flatMap_nil, List.append_nil, List.mem_append, hforward,
    hreverse]
  exact Or.comm

end PropertyGraph

theorem branches_program_single {c : Criterion} (hblank : c.isBlank = false) (limit : Nat)
    (showInternet : Bool) : (program .data [c] limit showInternet).branches =
      criterionBranches .data c ++ if showInternet then [internetBranch] else [] := by
  simp [program, dataProgram, criteriaBranches, hblank]

/-- A bidirectional criterion that is counted, or that asks for relationships of any type, has its
forward branch only. One for a known type has a reverse branch too. With the sides exchanged the two
branches are the same in the other order, up to the name of the relationship; all of them have the
columns `n`, `r` and `m`, and on every store both criteria show the same rows. -/
theorem bidirectional_symmetric (c : Criterion) (hmode : c.mode = .bidirectional) :
    (∀ purpose : Purpose, purpose = .count ∨ c.relationshipOrAny = .any →
      criterionBranches purpose c = [forwardBranch purpose c]) ∧
    ∀ kind, c.relationship = some (.named kind) →
      criterionBranches .data c = [forwardBranch .data c, reverseBranch c] ∧
      ∀ c' : Criterion, c'.Reverses c →
        criterionBranches .data c' =
          [(reverseBranch c).rename swapLinks, (forwardBranch .data c).rename swapLinks] ∧
        (∀ b ∈ criterionBranches .data c ++ criterionBranches .data c', b.ShowsTriple) ∧
        (∀ (g : PropertyGraph) (a : Answer),
          a ∈ (criterionBranches .data c).flatMap g.branchAnswers ↔
            a ∈ (criterionBranches .data c').flatMap g.branchAnswers) ∧
        (c.isBlank = false → c'.isBlank = false →
          ∀ (g : PropertyGraph) (limit limit' : Nat) (showInternet : Bool),
            (g.unite (program .data [c] limit showInternet)).Perm
              (g.unite (program .data [c'] limit' showInternet))) := by
  refine ⟨fun purpose => criterionBranches_one_way hmode, fun kind hkind => ?_⟩
  have hbranches := criterionBranches_both_ways hmode hkind
  refine ⟨hbranches, fun c' h => ?_⟩
  have hbranches' : criterionBranches .data c' = [forwardBranch .data c', reverseBranch c'] :=
    criterionBranches_both_ways (h.mode.trans hmode) (h.relationship.trans hkind)
  have hanswers : ∀ (g : PropertyGraph) (a : Answer),
      a ∈ (criterionBranches .data c).flatMap g.branchAnswers ↔
        a ∈ (criterionBranches .data c').flatMap g.branchAnswers := by
    intro g a
    rw [hbranches, hbranches']
    exact PropertyGraph.mem_answers_reverses h a
  refine ⟨?_, ?_, hanswers, ?_⟩
  · rw [hbranches', forwardBranch_of_reverses h, reverseBranch_of_reverses h]
  · rw [hbranches, hbranches']
    have hforward := fun c : Criterion => showsTriple_linkBranch (c.source.getD .any)
      c.relationshipOrAny.name? c.targetOrAny c.filters (by decide : "r" ∈ ["r", "r2"])
    have hreverse := fun c : Criterion => showsTriple_linkBranch c.targetOrAny
      c.relationshipOrAny.name? (c.source.getD .any) c.filters (by decide : "r2" ∈ ["r", "r2"])
    simp only [List.cons_append, List.nil_append, List.forall_mem_cons]
    exact ⟨hforward c, hreverse c, hforward c', hreverse c', List.forall_mem_nil _⟩
  · intro hblank hblank' g limit limit' showInternet
    refine g.unite_perm rfl rfl ?_ ?_ fun a => ?_
    · simp [branches_program_single hblank, hbranches]
    · simp [branches_program_single hblank', hbranches']
    · rw [branches_program_single hblank, branches_program_single hblank', List.flatMap_append,
        List.flatMap_append, List.mem_append, List.mem_append, hanswers g a]

/-- Scanned vulnerabilities of one severity and what they affect, in either direction. -/
def affected : Criterion where
  source := some (.named "vulnerability")
  relationship := some (.named "affects")
  filters := { severity := some "high" }
  mode := .bidirectional

theorem bidirectional_symmetric_affected :
    affected.mode = .bidirectional ∧ affected.relationship = some (.named "affects") ∧
      affected.reversed.Reverses affected ∧ affected.isBlank = false ∧
      affected.reversed.isBlank = false ∧
      criterionBranches .count affected = [forwardBranch .count affected] ∧
      criterionBranches .data affected.reversed =
        [(reverseBranch affected).rename swapLinks,
          (forwardBranch .data affected).rename swapLinks] ∧
      ∀ g : PropertyGraph, (g.unite (program .data [affected] 10 false)).Perm
        (g.unite (program .data [affected.reversed] 10 false)) := by
  obtain ⟨hforward, hboth⟩ := bidirectional_symmetric affected rfl
  obtain ⟨-, hreversed⟩ := hboth "affects" rfl
  obtain ⟨hbranches, -, -, hrows⟩ := hreversed affected.reversed affected.reversed_reverses
  exact ⟨rfl, rfl, affected.reversed_reverses, rfl, rfl, hforward .count (.inl rfl), hbranches,
    fun g => hrows rfl rfl g 10 10 false⟩

end Query

end AssetAtlas
