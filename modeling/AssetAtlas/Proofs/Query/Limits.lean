import Mathlib.Data.List.Chain
import AssetAtlas.Proofs.Query.Columns
import AssetAtlas.Proofs.Query.FilterTexts
import AssetAtlas.Proofs.Query.Scoping

/-!
The limit of a program as it is written. A label or a type may be called `LIMIT` as well, but no
number stands behind it: every number of a branch is one of the hops of a path and stands right
behind a mark. So a data program has its own limit and no other, and that stands outside of the
union. The main statement is `programs_wellBuilt`.
-/

namespace AssetAtlas.Query

/-- The limit that tokens begin with. -/
def limitAhead? : List Token → Option Nat
  | .word w :: .blank :: .number n :: _ => if w = "LIMIT" then some n else none
  | _ => none

/-- All numbers behind the word `LIMIT`. -/
def limits : List Token → List Nat
  | [] => []
  | t :: rest => (limitAhead? (t :: rest)).toList ++ limits rest

/-- Whether the second token is no number or the first one a mark. -/
def MarksNumber (t next : Token) : Prop :=
  ∀ n, next = .number n → ∃ c, t = .mark c

/-- Every number stands right behind a mark. -/
structure NumbersBehindMarks (ts : List Token) : Prop where
  head : ∀ n, ts.head? ≠ some (.number n)
  chain : ts.IsChain MarksNumber

namespace NumbersBehindMarks

variable {a b : List Token}

theorem append (ha : NumbersBehindMarks a) (hb : NumbersBehindMarks b) :
    NumbersBehindMarks (a ++ b) where
  head := by
    intro n h
    rw [List.head?_append, Option.or_eq_some_iff] at h
    rcases h with h | ⟨-, h⟩
    · exact ha.head n h
    · exact hb.head n h
  chain := by
    refine ha.chain.append hb.chain fun t _ next hnext n hn => ?_
    subst hn
    exact absurd hnext (hb.head n)

theorem of_not_mem (h : ∀ n, .number n ∉ a) : NumbersBehindMarks a where
  head := fun n hn => h n (List.mem_of_head? hn)
  chain := by
    refine (List.pairwise_of_forall_mem_list fun _ _ next hnext n hn => ?_).isChain
    subst hn
    exact absurd hnext (h n)

theorem flatMap {α : Type} {l : List α} {f : α → List Token}
    (h : ∀ x ∈ l, NumbersBehindMarks (f x)) : NumbersBehindMarks (l.flatMap f) := by
  induction l with
  | nil => exact of_not_mem fun _ => List.not_mem_nil
  | cons x rest ih =>
      obtain ⟨hx, hrest⟩ := List.forall_mem_cons.mp h
      rw [List.flatMap_cons]
      exact hx.append (ih hrest)

end NumbersBehindMarks

theorem limitAhead?_eq_none {ts : List Token} (h : ts.IsChain MarksNumber) :
    limitAhead? ts = none := by
  unfold limitAhead?
  split
  · -- the number stands behind a blank
    obtain ⟨c, hc⟩ := (List.isChain_cons_cons.mp h.tail).1 _ rfl
    exact nomatch hc
  · rfl

theorem limits_eq_nil {ts : List Token} (h : ts.IsChain MarksNumber) : limits ts = [] := by
  induction ts with
  | nil => rfl
  | cons t rest ih =>
      rw [limits, limitAhead?_eq_none h, ih h.tail]
      rfl

theorem limits_append_blank (ts : List Token) (w : String) (rest : List Token) :
    limits (ts ++ .blank :: .word w :: rest) = limits ts ++ limits (.word w :: rest) := by
  have hahead (t : Token) (ts : List Token) :
      limitAhead? (t :: (ts ++ .blank :: .word w :: rest)) = limitAhead? (t :: ts) := by
    -- three tokens decide, and a limit that needs the clause would have a word for a number
    match ts with
    | [] => cases t <;> rfl
    | [u] => cases t <;> cases u <;> rfl
    | u :: v :: _ => cases t <;> cases u <;> cases v <;> rfl
  induction ts with
  | nil => rfl
  | cons t ts ih =>
      rw [List.cons_append, limits, limits, ih, hahead, List.append_assoc]

/-! ## The numbers of a program -/

theorem ofName_ne_number (s : String) (n : Nat) : Token.ofName s ≠ .number n := by
  unfold Token.ofName
  split <;> exact Token.noConfusion

theorem number_not_mem_labelTokens (label : Option String) (n : Nat) :
    .number n ∉ labelTokens label := by
  cases label with
  | none => exact List.not_mem_nil
  | some s => simpa [labelTokens] using (ofName_ne_number s n).symm

theorem NodePattern.numbersBehindMarks (p : NodePattern) : NumbersBehindMarks p.tokens :=
  .of_not_mem fun n => by simpa [tokens] using number_not_mem_labelTokens p.label n

theorem numbersBehindMarks_hopsTokens (hops : Option (Nat × Nat)) :
    NumbersBehindMarks (hopsTokens hops) := by
  cases hops with
  | none => exact .of_not_mem fun _ => List.not_mem_nil
  | some hops => exact ⟨by simp [hopsTokens], by simp [hopsTokens, MarksNumber]⟩

theorem LinkPattern.numbersBehindMarks (l : LinkPattern) : NumbersBehindMarks l.tokens := by
  have hopened : NumbersBehindMarks
      ([.mark '-', .mark '['] ++ variableTokens l.var ++ labelTokens l.kind) := by
    refine .of_not_mem fun n => ?_
    cases l.var <;> simpa [variableTokens] using number_not_mem_labelTokens l.kind n
  have hclosed : NumbersBehindMarks [.mark ']', .mark '-', .mark '>'] :=
    .of_not_mem (by simp)
  exact (hopened.append (numbersBehindMarks_hopsTokens l.hops)).append hclosed

theorem Pattern.numbersBehindMarks (p : Pattern) : NumbersBehindMarks p.tokens := by
  have hlink (source target : NodePattern) (l : LinkPattern) :
      NumbersBehindMarks (source.tokens ++ l.tokens ++ target.tokens) :=
    (source.numbersBehindMarks.append l.numbersBehindMarks).append target.numbersBehindMarks
  cases p with
  | node n => exact n.numbersBehindMarks
  | link source l target => exact hlink source target l
  | path var source l target =>
      have hnamed : NumbersBehindMarks [.word var, .blank, .mark '=', .blank] :=
        .of_not_mem (by simp)
      simpa [tokens] using hnamed.append (hlink source target l)

theorem Match.numbersBehindMarks (m : Match) : NumbersBehindMarks m.tokens := by
  have hmatch : NumbersBehindMarks
      ((if m.isOptional then [.word "OPTIONAL", .blank] else []) ++ [.word "MATCH", .blank]) := by
    refine .of_not_mem fun n => ?_
    cases m.isOptional <;> simp
  exact hmatch.append m.pattern.numbersBehindMarks

namespace Predicate

theorem number_not_mem_joined {word : String} {n : Nat} {members : List Predicate}
    (h : ∀ p ∈ members, .number n ∉ p.tokens) : .number n ∉ joined word members := by
  have hmember (p : Predicate) (hp : .number n ∉ p.tokens) : .number n ∉ p.memberTokens := by
    rw [memberTokens_eq]
    split <;> simpa using hp
  induction members with
  | nil => simp [joined]
  | cons p rest ih =>
      obtain ⟨hp, hrest⟩ := List.forall_mem_cons.mp h
      cases rest with
      | nil => simpa only [joined] using hmember p hp
      | cons q rest =>
          rw [joined_cons_cons]
          simp [hmember p hp, ih hrest]

theorem number_not_mem_tokens (p : Predicate) (n : Nat) : .number n ∉ p.tokens := by
  have hvalue (value : Literal) : .number n ∉ value.tokens := by
    cases value <;> simp [Literal.tokens]
  have hname (s : String) : .number n ≠ Token.ofName s := (ofName_ne_number s n).symm
  induction p using Predicate.induct with
  | hasLabel var label => simp [tokens, hname]
  | equal var property value => simp [tokens, propertyTokens, hname, hvalue]
  | unequal var property value => simp [tokens, propertyTokens, hname, hvalue]
  | isPresent var property => simp [tokens, propertyTokens, hname]
  | and members ih =>
      rw [tokens]
      exact number_not_mem_joined ih
  | or members ih =>
      rw [tokens]
      exact number_not_mem_joined ih

end Predicate

theorem numbersBehindMarks_conditionTokens (condition : Option Predicate) :
    NumbersBehindMarks (conditionTokens condition) := by
  cases condition with
  | none => exact .of_not_mem fun _ => List.not_mem_nil
  | some p => exact .of_not_mem fun n => by simp [conditionTokens, p.number_not_mem_tokens n]

theorem numbersBehindMarks_unwindingTokens (unwinding : Option Unwinding) :
    NumbersBehindMarks (unwindingTokens unwinding) := by
  cases unwinding with
  | none => exact .of_not_mem fun _ => List.not_mem_nil
  | some u => exact .of_not_mem fun n => by simp [unwindingTokens, Unwinding.tokens]

theorem Columns.numbersBehindMarks (c : Columns) : NumbersBehindMarks c.tokens := by
  have hterm (t : Term) (n : Nat) : .number n ∉ t.tokens := by
    cases t <;> simp [Term.tokens]
  have hcolumn (t : Term) (name : String) (n : Nat) : .number n ∉ columnTokens t name := by
    unfold columnTokens
    split <;> simp [hterm]
  cases c with
  | count t => exact .of_not_mem fun n => by simp [tokens, hterm]
  | triple n r m => exact .of_not_mem fun n => by simp [tokens, hcolumn]

theorem Branch.numbersBehindMarks (b : Branch) : NumbersBehindMarks b.tokens := by
  have hpatterns : NumbersBehindMarks (b.patterns.flatMap fun m => m.tokens ++ [.blank]) :=
    .flatMap fun m _ => m.numbersBehindMarks.append (.of_not_mem (by simp))
  exact ((hpatterns.append (numbersBehindMarks_conditionTokens b.condition)).append
    (numbersBehindMarks_unwindingTokens b.unwinding)).append b.columns.numbersBehindMarks

namespace Program

theorem numbersBehindMarks_branchTokens (u : Union) (bs : List Branch) :
    NumbersBehindMarks (branchTokens u bs) := by
  have hunion : NumbersBehindMarks u.tokens := by
    cases u <;> exact .of_not_mem (by simp [Union.tokens])
  fun_induction branchTokens u bs with
  | case1 => exact .of_not_mem fun _ => List.not_mem_nil
  | case2 b => exact b.numbersBehindMarks
  | case3 b rest _ ih => exact (b.numbersBehindMarks.append hunion).append ih

/-- A union that is called as a part of a larger program. -/
def calling (union : List Token) : List Token :=
  [.word "CALL", .blank, .mark '\x7b', .blank] ++ union ++
    [.blank, .mark '\x7d', .blank, .word "RETURN", .blank, .word "n", .mark ',', .blank, .word "r",
      .mark ',', .blank, .word "m"]

/-- The branches can be matched one by one and united: there are some, none uses a variable that it
does not bind, and all have the same columns. -/
structure WellBuilt (p : Program) (columns : List String) : Prop where
  branches_ne_nil : p.branches ≠ []
  wellScoped : ∀ b ∈ p.branches, b.WellScoped
  columnNames?_eq : ∀ b ∈ p.branches, columnNames? b.tokens = some columns

/-- There is one limit. It stands behind the whole union, which is called if and only if it has
several branches. -/
structure LimitedOnce (p : Program) (limit : Nat) : Prop where
  limits_eq : limits p.tokens = [limit]
  limits_branchTokens : limits (branchTokens p.union p.branches) = []
  call_iff : p.tokens.head? = some (.word "CALL") ↔ 1 < p.branches.length
  tokens_eq : p.tokens =
    (if 1 < p.branches.length then calling (branchTokens p.union p.branches)
      else branchTokens p.union p.branches) ++ [.blank, .word "LIMIT", .blank, .number limit]

theorem numbersBehindMarks_calling {union : List Token} (h : NumbersBehindMarks union) :
    NumbersBehindMarks (calling union) :=
  ((NumbersBehindMarks.of_not_mem (by simp)).append h).append (.of_not_mem (by simp))

theorem tokens_of_limit {p : Program} {limit : Nat} (h : p.limit = some limit) : p.tokens =
    (if 1 < p.branches.length then calling (branchTokens p.union p.branches)
      else branchTokens p.union p.branches) ++ [.blank, .word "LIMIT", .blank, .number limit] := by
  have hwrapped : [.word "CALL", .blank, .mark '\x7b', .blank] ++ branchTokens p.union p.branches ++
      [.blank, .mark '\x7d', .blank] ++ Columns.plain.tokens =
        calling (branchTokens p.union p.branches) := by
    rw [List.append_assoc]
    rfl
  rw [tokens, h]
  simp only [hwrapped]

theorem exists_head?_branch (b : Branch) : ∃ w ≠ "CALL", b.tokens.head? = some (.word w) := by
  rw [Branch.tokens]
  cases b.patterns with
  | cons m _ =>
      obtain ⟨isOptional, _⟩ := m
      cases isOptional with
      | true => exact ⟨"OPTIONAL", by decide, rfl⟩
      | false => exact ⟨"MATCH", by decide, rfl⟩
  | nil =>
      cases b.condition with
      | some p => exact ⟨"WHERE", by decide, rfl⟩
      | none =>
          cases b.unwinding with
          | some u => exact ⟨"UNWIND", by decide, rfl⟩
          | none => exact ⟨"RETURN", by decide, by rw [Columns.tokens_eq]; rfl⟩

theorem limitedOnce {p : Program} {limit : Nat} (hlimit : p.limit = some limit)
    (hsome : p.branches ≠ []) : p.LimitedOnce limit where
  limits_eq := by
    have hunion := numbersBehindMarks_branchTokens p.union p.branches
    rw [tokens_of_limit hlimit, limits_append_blank, limits_eq_nil]
    · rfl
    · split
      · exact (numbersBehindMarks_calling hunion).chain
      · exact hunion.chain
  limits_branchTokens := limits_eq_nil (numbersBehindMarks_branchTokens _ _).chain
  call_iff := by
    rw [tokens_of_limit hlimit]
    split
    · next hseveral => exact iff_of_true rfl hseveral
    · next hsingle =>
        refine iff_of_false ?_ hsingle
        -- the only branch begins with a keyword of its own
        match hbranches : p.branches, hsome with
        | [b], _ =>
            obtain ⟨w, hw, hhead⟩ := exists_head?_branch b
            rw [branchTokens, List.head?_append, hhead]
            simpa using hw
        | _ :: _ :: _, _ => simp [hbranches] at hsingle
  tokens_eq := tokens_of_limit hlimit

end Program

theorem wellBuilt_program (purpose : Purpose) (criteria : List Criterion) (limit : Nat)
    (showInternet : Bool) :
    (program purpose criteria limit showInternet).WellBuilt purpose.columnNames where
  branches_ne_nil := by
    cases purpose with
    | count => exact criteriaBranches_ne_nil .count criteria
    | data => exact List.append_ne_nil_of_left_ne_nil (criteriaBranches_ne_nil .data criteria) _
  wellScoped := (wellScoped_builders purpose).program criteria limit showInternet
  columnNames?_eq := columnNames?_program purpose criteria limit showInternet

end AssetAtlas.Query
