import Mathlib.Logic.Function.Basic
import AssetAtlas.Proofs.Query.Evaluation

/-!
The variables of a branch are only names. If they are replaced by others and no two fall together,
every step of matching goes as before, with the bindings under their new names; what the branch
answers does not change. The names of its columns are no variables and stay.
-/

namespace AssetAtlas.Query

/-! ## Trees under new names -/

def NodePattern.rename (ρ : String → String) (n : NodePattern) : NodePattern :=
  { n with var := ρ n.var }

def LinkPattern.rename (ρ : String → String) (l : LinkPattern) : LinkPattern :=
  { l with var := l.var.map ρ }

def Pattern.rename (ρ : String → String) : Pattern → Pattern
  | .node n => .node (n.rename ρ)
  | .link source l target => .link (source.rename ρ) (l.rename ρ) (target.rename ρ)
  | .path var source l target => .path (ρ var) (source.rename ρ) (l.rename ρ) (target.rename ρ)

def Match.rename (ρ : String → String) (m : Match) : Match :=
  { m with pattern := m.pattern.rename ρ }

namespace Predicate

mutual

def rename (ρ : String → String) : Predicate → Predicate
  | .hasLabel var label => .hasLabel (ρ var) label
  | .equal var property value => .equal (ρ var) property value
  | .unequal var property value => .unequal (ρ var) property value
  | .isPresent var property => .isPresent (ρ var) property
  | .and members => .and (renameAll ρ members)
  | .or members => .or (renameAll ρ members)

def renameAll (ρ : String → String) : List Predicate → List Predicate
  | [] => []
  | p :: rest => rename ρ p :: renameAll ρ rest

end

end Predicate

def Term.rename (ρ : String → String) : Term → Term
  | .var name => .var (ρ name)
  | .null => .null
  | .startOf link => .startOf (ρ link)
  | .endOf link => .endOf (ρ link)

def Columns.rename (ρ : String → String) : Columns → Columns
  | .triple n r m => .triple (n.rename ρ) (r.rename ρ) (m.rename ρ)
  | .count t => .count (t.rename ρ)

def Unwinding.rename (ρ : String → String) (u : Unwinding) : Unwinding :=
  ⟨ρ u.path, ρ u.var⟩

def Branch.rename (ρ : String → String) (b : Branch) : Branch where
  patterns := b.patterns.map (Match.rename ρ)
  condition := b.condition.map (Predicate.rename ρ)
  unwinding := b.unwinding.map (Unwinding.rename ρ)
  columns := b.columns.rename ρ

def Assignment.rename (ρ : String → String) (σ : Assignment) : Assignment :=
  ⟨σ.bindings.map fun b => (ρ b.1, b.2)⟩

theorem Pattern.vars_rename (ρ : String → String) (p : Pattern) :
    (p.rename ρ).vars = p.vars.map ρ := by
  cases p with
  | node n => rfl
  | link source l target | path var source l target =>
      simp [rename, vars, NodePattern.rename, LinkPattern.rename, Option.toList_map]

theorem Predicate.rename_eq_self {ρ : String → String} (p : Predicate)
    (h : ∀ v ∈ p.vars, ρ v = v) : p.rename ρ = p := by
  have hmembers : ∀ members : List Predicate,
      (∀ q ∈ members, (∀ v ∈ q.vars, ρ v = v) → q.rename ρ = q) →
      (∀ v ∈ members.flatMap vars, ρ v = v) → renameAll ρ members = members := by
    intro members ih hvars
    induction members with
    | nil => rfl
    | cons q rest ihrest =>
        rw [List.flatMap_cons, List.forall_mem_append] at hvars
        rw [List.forall_mem_cons] at ih
        rw [renameAll, ih.1 hvars.1, ihrest ih.2 hvars.2]
  induction p using Predicate.induct with
  | hasLabel var label | equal var property value | unequal var property value
  | isPresent var property =>
      rw [rename, h var (by simp)]
  | and members ih | or members ih =>
      rw [rename, hmembers members ih (by simpa using h)]

/-! ## Assignments under new names -/

namespace Assignment

variable {ρ : String → String} (hρ : Function.Injective ρ) (σ : Assignment)

include hρ

theorem find?_rename (var : String) : (σ.rename ρ).find? (ρ var) = σ.find? var := by
  obtain ⟨bindings⟩ := σ
  simp only [find?, rename]
  induction bindings with
  | nil => rfl
  | cons b rest ih =>
      have hname : (ρ var == ρ b.1) = (var == b.1) := by
        rw [Bool.eq_iff_iff, beq_iff_eq, beq_iff_eq, hρ.eq_iff]
      rw [List.map_cons, List.lookup_cons, List.lookup_cons, hname, ih]

theorem value_rename (var : String) : (σ.rename ρ).value (ρ var) = σ.value var := by
  rw [value, value, σ.find?_rename hρ]

theorem bind?_rename (var : String) (v : Value) :
    (σ.rename ρ).bind? (ρ var) v = (σ.bind? var v).map (rename ρ) := by
  unfold bind?
  rw [σ.find?_rename hρ]
  cases σ.find? var with
  | none => rfl
  | some w =>
      dsimp only
      split <;> rfl

theorem unwind_rename (u : Unwinding) :
    (σ.rename ρ).unwind (u.rename ρ) = (σ.unwind u).map (rename ρ) := by
  simp only [unwind, Unwinding.rename, σ.value_rename hρ]
  split
  · rw [List.map_map]
    rfl
  · rfl

omit hρ

theorem rename_pad (vars : List String) :
    (σ.pad vars).rename ρ = (σ.rename ρ).pad (vars.map ρ) := by
  simp [pad, rename]

end Assignment

/-! ## Matching under new names -/

namespace PropertyGraph

open Assignment (rename)

variable (g : PropertyGraph) {ρ : String → String} (hρ : Function.Injective ρ) (σ : Assignment)

include hρ

theorem bindNode_rename (p : NodePattern) (id : Nat) :
    g.bindNode (p.rename ρ) id (σ.rename ρ) = (g.bindNode p id σ).map (rename ρ) := by
  simp only [bindNode, NodePattern.rename, σ.bind?_rename hρ]
  split <;> rfl

theorem bindLink_rename (p : LinkPattern) (w : Walk) :
    bindLink (p.rename ρ) w (σ.rename ρ) = (bindLink p w σ).map (rename ρ) := by
  obtain ⟨var, kind, hops⟩ := p
  cases var with
  | none => rfl
  | some var => exact σ.bind?_rename hρ var _

theorem bindWalk_rename (source : NodePattern) (p : LinkPattern) (target : NodePattern) (w : Walk) :
    g.bindWalk (source.rename ρ) (p.rename ρ) (target.rename ρ) (σ.rename ρ) w =
      (g.bindWalk source p target σ w).map (rename ρ) := by
  simp only [bindWalk, Option.bind_eq_bind, g.bindNode_rename hρ]
  cases g.bindNode source w.source σ with
  | none => rfl
  | some σ₁ =>
      simp only [Option.map_some, Option.bind_some, bindLink_rename hρ]
      cases bindLink p w σ₁ with
      | none => rfl
      | some σ₂ => exact g.bindNode_rename hρ σ₂ target w.target

theorem extend_rename (p : Pattern) :
    g.extend (σ.rename ρ) (p.rename ρ) = (g.extend σ p).map (rename ρ) := by
  cases p with
  | node p =>
      simp only [extend, Pattern.rename, List.map_filterMap, g.bindNode_rename hρ]
  | link source p target =>
      simp only [extend, Pattern.rename, List.map_filterMap]
      exact List.filterMap_congr fun w _ => g.bindWalk_rename hρ σ source p target w
  | path var source p target =>
      simp only [extend, Pattern.rename, List.map_filterMap]
      refine List.filterMap_congr fun w _ => ?_
      rw [g.bindWalk_rename hρ]
      cases g.bindWalk source p target σ w with
      | none => rfl
      | some τ => exact τ.bind?_rename hρ var _

theorem holds_rename (p : Predicate) : g.holds (σ.rename ρ) (p.rename ρ) = g.holds σ p := by
  induction p using Predicate.induct with
  | hasLabel var label | equal var property value | unequal var property value
  | isPresent var property =>
      simp only [Predicate.rename, holds, σ.value_rename hρ]
  | and members ih =>
      rw [Predicate.rename, holds, holds]
      induction members with
      | nil => rfl
      | cons p rest ihrest =>
          rw [List.forall_mem_cons] at ih
          rw [Predicate.renameAll, allHold, allHold, ih.1, ihrest ih.2]
  | or members ih =>
      rw [Predicate.rename, holds, holds]
      induction members with
      | nil => rfl
      | cons p rest ihrest =>
          rw [List.forall_mem_cons] at ih
          rw [Predicate.renameAll, someHolds, someHolds, ih.1, ihrest ih.2]

theorem matchRows_rename (m : Match) (condition : Option Predicate) :
    g.matchRows (m.rename ρ) (condition.map (Predicate.rename ρ)) (σ.rename ρ) =
      (g.matchRows m condition σ).map (rename ρ) := by
  have hkept : ∀ τ, (condition.map (Predicate.rename ρ)).all (g.holds (rename ρ τ)) =
      condition.all (g.holds τ) := by
    intro τ
    cases condition with
    | none => rfl
    | some p => exact g.holds_rename hρ τ p
  simp only [matchRows, Match.rename, g.extend_rename hρ, List.filter_map, Function.comp_def, hkept,
    List.isEmpty_map, Pattern.vars_rename, ← Assignment.rename_pad]
  split <;> rfl

theorem matchAll_rename (condition : Option Predicate) (patterns : List Match) :
    g.matchAll (condition.map (Predicate.rename ρ)) (patterns.map (Match.rename ρ)) (σ.rename ρ) =
      (g.matchAll condition patterns σ).map (rename ρ) := by
  induction patterns generalizing σ with
  | nil => rfl
  | cons m rest ih =>
      cases rest with
      | nil => exact g.matchRows_rename hρ σ m condition
      | cons next rest =>
          simp only [List.map_cons, matchAll] at ih ⊢
          have hfirst := g.matchRows_rename hρ σ m none
          rw [Option.map_none] at hfirst
          rw [hfirst, List.flatMap_map, List.map_flatMap]
          exact List.flatMap_congr fun τ _ => ih τ

omit σ in
theorem rows_rename (patterns : List Match) (condition : Option Predicate)
    (unwinding : Option Unwinding) :
    g.rows (patterns.map (Match.rename ρ)) (condition.map (Predicate.rename ρ))
        (unwinding.map (Unwinding.rename ρ)) =
      (g.rows patterns condition unwinding).map (rename ρ) := by
  have hmatched := g.matchAll_rename hρ {} condition patterns
  -- nothing is bound at first, under the old names or the new ones
  rw [show rename ρ {} = {} from rfl] at hmatched
  cases unwinding with
  | none => exact hmatched
  | some u =>
      simp only [rows, Option.map_some, hmatched, List.flatMap_map, List.map_flatMap]
      exact List.flatMap_congr fun τ _ => τ.unwind_rename hρ u

theorem termValue_rename (t : Term) : g.termValue (σ.rename ρ) (t.rename ρ) = g.termValue σ t := by
  cases t <;> simp [termValue, Term.rename, σ.value_rename hρ]

omit σ in
theorem branchAnswers_rename (b : Branch) : g.branchAnswers (b.rename ρ) = g.branchAnswers b := by
  obtain ⟨patterns, condition, unwinding, columns⟩ := b
  simp only [branchAnswers, Branch.rename, g.rows_rename hρ]
  cases columns with
  | triple n r m =>
      simp [Columns.rename, g.termValue_rename hρ]
  | count t =>
      simp [Columns.rename, g.termValue_rename hρ, List.countP_map, Function.comp_def]

end PropertyGraph

end AssetAtlas.Query
