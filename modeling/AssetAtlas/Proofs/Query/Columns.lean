import AssetAtlas.Proofs.Query.Shortfall
import AssetAtlas.Proofs.Query.Variables
import AssetAtlas.Query.Token

/-!
The columns of a branch as they are written. A branch ends with `RETURN` and its columns, which
stand between commas; a column has the name of its variable unless an alias follows it. The branches
of a compiled program all have the names that suit its purpose, so that they can be united.
-/

namespace AssetAtlas.Query

/-- The tokens behind the last `RETURN`. -/
def behindReturn (ts : List Token) : List Token :=
  (ts.reverse.takeWhile (· ≠ .word "RETURN")).reverse

/-- The name of a column: its alias, or the variable that it is. -/
def columnName? (column : List Token) : Option String :=
  match column.reverse with
  | [.word name] => some name
  | .word name :: .word word :: _ :: _ => if word = "AS" then some name else none
  | _ => none

/-- The names of the columns of a branch, which stand between commas. -/
def columnNames? (ts : List Token) : Option (List String) :=
  (((behindReturn ts).filter (· ≠ .blank)).splitOn (.mark ',')).mapM columnName?

def Purpose.columnNames : Purpose → List String
  | .data => ["n", "r", "m"]
  | .count => ["count"]

theorem behindReturn_append (ts : List Token) {clause : List Token}
    (h : .word "RETURN" ∉ clause) : behindReturn (ts ++ .word "RETURN" :: clause) = clause := by
  have hclause : ∀ t ∈ clause.reverse, decide (t ≠ .word "RETURN") = true := by
    intro t ht
    rw [decide_eq_true_iff]
    rintro rfl
    exact h (List.mem_reverse.mp ht)
  rw [behindReturn, List.reverse_append, List.reverse_cons, List.append_assoc,
    List.takeWhile_append_of_pos hclause]
  simp

theorem Term.return_not_mem_tokens {t : Term} (h : "RETURN" ∉ t.vars) :
    .word "RETURN" ∉ t.tokens := by
  cases t with
  | null => simp [tokens]
  | var name | startOf name | endOf name => simpa [tokens, vars] using h

theorem Term.comma_not_mem_tokens (t : Term) : .mark ',' ∉ t.tokens := by
  cases t <;> simp [tokens]

theorem return_not_mem_columnTokens {t : Term} {name : String} (hname : name ≠ "RETURN")
    (ht : "RETURN" ∉ t.vars) : .word "RETURN" ∉ columnTokens t name := by
  unfold columnTokens
  split
  · simpa using hname.symm
  · simpa [Term.return_not_mem_tokens ht] using hname.symm

theorem columnName?_alias {ts : List Token} (hts : ts ≠ []) (name : String) :
    columnName? (ts ++ [.word "AS", .word name]) = some name := by
  obtain ⟨t, rest, hrest⟩ := List.exists_cons_of_ne_nil (List.reverse_ne_nil_iff.mpr hts)
  simp [columnName?, hrest]

def column (t : Term) (name : String) : List Token :=
  (columnTokens t name).filter (· ≠ .blank)

theorem columnName?_column (t : Term) (name : String) :
    columnName? (column t name) = some name := by
  unfold column columnTokens
  split
  · rfl
  · cases t <;> rfl

theorem comma_not_mem_column (t : Term) (name : String) : .mark ',' ∉ column t name := by
  unfold column columnTokens
  split
  · simp
  · simp [t.comma_not_mem_tokens]

namespace Columns

def clause (c : Columns) : List Token :=
  c.tokens.tail

theorem tokens_eq (c : Columns) : c.tokens = .word "RETURN" :: c.clause := by
  cases c <;> rfl

theorem return_not_mem_clause {c : Columns} (h : "RETURN" ∉ c.vars) :
    .word "RETURN" ∉ c.clause := by
  cases c with
  | count t => simp [clause, tokens, Term.return_not_mem_tokens (t := t) h]
  | triple n r m =>
      simp only [vars, List.mem_append, not_or] at h
      obtain ⟨⟨hn, hr⟩, hm⟩ := h
      have hn := return_not_mem_columnTokens (by decide : "n" ≠ "RETURN") hn
      have hr := return_not_mem_columnTokens (by decide : "r" ≠ "RETURN") hr
      have hm := return_not_mem_columnTokens (by decide : "m" ≠ "RETURN") hm
      simp [clause, tokens, hn, hr, hm]

theorem splitOn_clause_triple (n r m : Term) :
    ((triple n r m).clause.filter (· ≠ .blank)).splitOn (.mark ',') =
      [column n "n", column r "r", column m "m"] := by
  have hclause : (triple n r m).clause.filter (· ≠ .blank) =
      [Token.mark ','].intercalate [column n "n", column r "r", column m "m"] := by
    simp [clause, tokens, column, List.intercalate]
  rw [hclause, List.splitOn_intercalate]
  · simp [comma_not_mem_column]
  · exact List.cons_ne_nil _ _

theorem splitOn_clause_count (t : Term) :
    ∃ counted ≠ [], ((count t).clause.filter (· ≠ .blank)).splitOn (.mark ',') =
      [counted ++ [.word "AS", .word "count"]] := by
  refine ⟨[.word "count", .mark '('] ++ t.tokens.filter (· ≠ .blank) ++ [.mark ')'], by simp, ?_⟩
  rw [← List.splitOn_intercalate (.mark ',') _ (List.cons_ne_nil _ _)]
  · simp [clause, tokens, List.intercalate]
  · simp [t.comma_not_mem_tokens]

theorem columnNames?_clause {purpose : Purpose} {c : Columns} (h : purpose.Suits c) :
    ((c.clause.filter (· ≠ .blank)).splitOn (.mark ',')).mapM columnName? =
      some purpose.columnNames := by
  match purpose, c, h with
  | .data, .triple n r m, _ =>
      rw [splitOn_clause_triple]
      simp [columnName?_column, Purpose.columnNames]
  | .count, .count t, _ =>
      obtain ⟨counted, hcounted, hsplit⟩ := splitOn_clause_count t
      rw [hsplit, List.mapM_cons, columnName?_alias hcounted]
      rfl

end Columns

namespace Branch

theorem columnNames?_tokens {purpose : Purpose} {b : Branch} (hsuits : purpose.Suits b.columns)
    (h : "RETURN" ∉ b.columns.vars) : columnNames? b.tokens = some purpose.columnNames := by
  rw [columnNames?, tokens, Columns.tokens_eq,
    behindReturn_append _ (Columns.return_not_mem_clause h)]
  exact Columns.columnNames?_clause hsuits

end Branch

theorem columnNames?_program (purpose : Purpose) (criteria : List Criterion) (limit : Nat)
    (showInternet : Bool) : ∀ b ∈ (program purpose criteria limit showInternet).branches,
      columnNames? b.tokens = some purpose.columnNames := by
  intro b hb
  refine Branch.columnNames?_tokens ((suits_builders purpose).program criteria limit _ b hb) ?_
  -- no variable is called like the keyword that the columns are found by
  intro hreturn
  have hvars := vars_program purpose criteria limit showInternet b hb
  exact absurd (hvars (List.mem_append_right _ hreturn)) (by decide)

end AssetAtlas.Query
