import Mathlib.Algebra.Ring.Nat
import Mathlib.Data.List.Forall2
import AssetAtlas.Proofs.Query.Contents
import AssetAtlas.Query.Compilation

/-!
Counting the rows of a data program. The two programs for a list of criteria go branch by branch:
each branch that counts matches what its partner matches, and it counts something that is there in
every row. The other direction of a criterion and the nodes open to the internet have no partner.

What it means to match is left open here. A row semantics may do anything with patterns, condition
and unwinding, as long as what has to match is not null.
-/

namespace AssetAtlas.Query

namespace Branch

/-- Whether a variable stands for something in every row, since its pattern has to match or it is
the unwound relationship. -/
def Binds (b : Branch) (var : String) : Prop :=
  (∃ m ∈ b.patterns, m.isOptional = false ∧ var ∈ m.pattern.vars) ∨
    ∃ u, b.unwinding = some u ∧ u.var = var

def isReverse (b : Branch) : Bool :=
  b.patterns.any fun m => m.pattern.vars.contains "r2"

/-- One branch counts the rows of another. -/
structure Counts (count data : Branch) : Prop where
  patterns_eq : count.patterns = data.patterns
  condition_eq : count.condition = data.condition
  unwinding_eq : count.unwinding = data.unwinding
  columns_count : ∃ var, count.columns = .count (.var var) ∧ count.Binds var
  columns_data : ∃ n r m, data.columns = .triple n r m

end Branch

/-- A way to match: the rows of a branch depend on its patterns, its condition and its unwinding. -/
structure RowSemantics where
  Row : Type
  rows : List Match → Option Predicate → Option Unwinding → List Row
  isNull : Row → Term → Bool
  isNull_eq_false : ∀ (b : Branch) (var : String), b.Binds var →
    ∀ row ∈ rows b.patterns b.condition b.unwinding, isNull row (.var var) = false

namespace RowSemantics

variable (S : RowSemantics)

def rowsOf (b : Branch) : List S.Row :=
  S.rows b.patterns b.condition b.unwinding

/-- The count that a branch answers with: how many rows have a term that is not null. -/
def counted (b : Branch) : Nat :=
  match b.columns with
  | .count t => (S.rowsOf b).countP fun row => !S.isNull row t
  | .triple _ _ _ => 0

def rowCount (b : Branch) : Nat :=
  (S.rowsOf b).length

theorem counted_of_binds {b : Branch} {var : String} (hcolumns : b.columns = .count (.var var))
    (hbinds : b.Binds var) : S.counted b = S.rowCount b := by
  rw [counted, hcolumns]
  dsimp only
  rw [rowCount, List.countP_eq_length]
  intro row hrow
  rw [S.isNull_eq_false b var hbinds row hrow]
  rfl

theorem counted_eq_rowCount {count data : Branch} (h : count.Counts data) :
    S.counted count = S.rowCount data := by
  obtain ⟨var, hcolumns, hbinds⟩ := h.columns_count
  rw [S.counted_of_binds hcolumns hbinds, rowCount, rowCount, rowsOf, rowsOf, h.patterns_eq,
    h.condition_eq, h.unwinding_eq]

theorem sum_counted {counts datas : List Branch} (h : List.Forall₂ Branch.Counts counts datas) :
    (counts.map S.counted).sum = (datas.map S.rowCount).sum := by
  induction h with
  | nil => rfl
  | cons hhead _ ih =>
      rw [List.map_cons, List.map_cons, List.sum_cons, List.sum_cons, ih,
        S.counted_eq_rowCount hhead]

end RowSemantics

/-! ## Branches -/

theorem nodeBranch_counts (source : Selector) (f : Filters) :
    (nodeBranch .count source f).Counts (nodeBranch .data source f) where
  patterns_eq := rfl
  condition_eq := rfl
  unwinding_eq := rfl
  columns_count := by
    refine ⟨"n", rfl, .inl ⟨_, List.mem_cons_self, rfl, ?_⟩⟩
    exact List.mem_singleton.mpr rfl
  columns_data := ⟨_, _, _, rfl⟩

theorem linkBranch_counts (source : Selector) (kind : Option String) (target : Selector)
    (link : String) (f : Filters) :
    (linkBranch .count source kind target link f).Counts
      (linkBranch .data source kind target link f) where
  patterns_eq := rfl
  condition_eq := rfl
  unwinding_eq := rfl
  columns_count := by
    refine ⟨link, rfl, .inl ⟨_, List.mem_cons_of_mem _ List.mem_cons_self, rfl, ?_⟩⟩
    exact List.mem_cons_of_mem _ List.mem_cons_self
  columns_data := ⟨_, _, _, rfl⟩

theorem pathBranch_counts (source target : Selector) (f : Filters) :
    (pathBranch .count source target f).Counts (pathBranch .data source target f) where
  patterns_eq := rfl
  condition_eq := rfl
  unwinding_eq := rfl
  columns_count := ⟨"r", rfl, .inr ⟨⟨"p", "r"⟩, rfl, rfl⟩⟩
  columns_data := ⟨_, _, _, rfl⟩

theorem isReverse_linkBranch (purpose : Purpose) (source : Selector) (kind : Option String)
    (target : Selector) (link : String) (f : Filters) :
    (linkBranch purpose source kind target link f).isReverse = decide (link = "r2") := by
  simp [Branch.isReverse, linkBranch, required, Pattern.vars, eq_comm]

theorem criterionBranches_counts (c : Criterion) :
    List.Forall₂ Branch.Counts (criterionBranches .count c)
      ((criterionBranches .data c).filter (!·.isReverse)) := by
  have hforward := linkBranch_counts (c.source.getD .any) c.relationshipOrAny.name? c.targetOrAny
    "r" c.filters
  have hkept : ∀ kind, (linkBranch .data (c.source.getD .any) kind c.targetOrAny "r"
      c.filters).isReverse = false := by
    intro kind
    rw [isReverse_linkBranch]
    decide
  unfold criterionBranches
  dsimp only
  cases c.mode with
  | singleNode => exact .cons (nodeBranch_counts _ _) .nil
  | fullGraph => exact .cons (pathBranch_counts _ _ _) .nil
  | relationship =>
      rw [List.filter_singleton, hkept]
      exact .cons hforward .nil
  | bidirectional =>
      have hcount : (c.relationshipOrAny.name?.isSome && decide (Purpose.count = .data)) = false :=
        Bool.and_false _
      dsimp only
      rw [if_neg (by rw [hcount]; decide)]
      split
      · rw [List.filter_cons, hkept, List.filter_singleton, isReverse_linkBranch]
        exact .cons hforward .nil
      · rw [List.filter_singleton, hkept]
        exact .cons hforward .nil

theorem criteriaBranches_cons {c : Criterion} (hc : c.isBlank = false) (rest : List Criterion)
    (purpose : Purpose) : criteriaBranches purpose (c :: rest) =
      ((c :: rest).filter (!·.isBlank)).flatMap (criterionBranches purpose) := by
  rw [criteriaBranches, hc]
  rfl

theorem criteriaBranches_counts {c : Criterion} (hc : c.isBlank = false) (rest : List Criterion) :
    List.Forall₂ Branch.Counts (criteriaBranches .count (c :: rest))
      ((criteriaBranches .data (c :: rest)).filter (!·.isReverse)) := by
  rw [criteriaBranches_cons hc, criteriaBranches_cons hc, List.filter_flatMap]
  refine List.rel_flatMap (R := (· = ·)) (List.forall₂_refl _) ?_
  rintro c _ rfl
  exact criterionBranches_counts c

/-- The count program of criteria that begin with one that is not blank goes through the branches of
the data program, whatever the limits and the options of the two are, and counts their rows. -/
theorem program_counts_rows (c : Criterion) (rest : List Criterion) (hc : c.isBlank = false)
    (limit limit' : Nat) (showInternet showInternet' : Bool) :
    let count := program .count (c :: rest) limit showInternet
    let data := program .data (c :: rest) limit' showInternet'
    let own := criteriaBranches .data (c :: rest)
    data.branches = own ++ (if showInternet' then [internetBranch] else []) ∧
      List.Forall₂ Branch.Counts count.branches (own.filter (!·.isReverse)) ∧
      count.union = .all ∧ count.limit = none ∧
      count = program .count (c :: rest) limit' showInternet' ∧
      ∀ S : RowSemantics,
        (count.branches.map S.counted).sum =
          ((own.filter (!·.isReverse)).map S.rowCount).sum := by
  intro count data own
  have hcounts : List.Forall₂ Branch.Counts count.branches (own.filter (!·.isReverse)) :=
    criteriaBranches_counts hc rest
  exact ⟨rfl, hcounts, rfl, rfl, rfl, fun S => S.sum_counted hcounts⟩

/-- A criterion in both directions, of which only one is counted. -/
def bothWays : Criterion :=
  (Criterion.between "Server" "uses" "Database").withMode .bidirectional

theorem program_counts_rows_both_ways :
    bothWays.isBlank = false ∧
      (program .data [bothWays, .blank] 50 true).branches.length = 3 ∧
      List.Forall₂ Branch.Counts (program .count [bothWays, .blank] 25 false).branches
        ((criteriaBranches .data [bothWays, .blank]).filter (!·.isReverse)) ∧
      ∀ S : RowSemantics,
        ((program .count [bothWays, .blank] 25 false).branches.map S.counted).sum =
          (((criteriaBranches .data [bothWays, .blank]).filter (!·.isReverse)).map
            S.rowCount).sum := by
  have hc : bothWays.isBlank = false := rfl
  obtain ⟨-, hcounts, -, -, -, hsum⟩ :=
    program_counts_rows bothWays [.blank] hc 25 50 false true
  exact ⟨hc, rfl, hcounts, hsum⟩

end AssetAtlas.Query
