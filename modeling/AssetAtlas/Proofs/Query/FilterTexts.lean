import Mathlib.Data.List.Forall2
import AssetAtlas.Proofs.Query.Legibility
import AssetAtlas.Proofs.Query.Variables

/-!
What the texts of filters can do to a compiled program: nothing but stand in their own tokens. Every
text of a compiled program is read back as the tokens of its tree, and two lists of criteria that
differ in the texts of filters alone give the same tokens but for those texts.

The second part is a simulation between two compilations. Both take the same steps, because none of
them looks at the text of a filter; so the relation on texts, whatever it is, is handed on from the
filters to conditions, branches, programs and tokens.
-/

namespace AssetAtlas.Query

def filterText? (f : Filters) : Attribute → Option String
  | .severity => f.severity
  | .package => f.package
  | .cve => f.cve

/-- Filters with related texts; the same of them are set. -/
def LikeFilters (R : String → String → Prop) (f f' : Filters) : Prop :=
  ∀ a, Option.Rel R (filterText? f a) (filterText? f' a)

/-- Criteria that are equal but for related texts of their filters. -/
structure LikeCriteria (R : String → String → Prop) (c c' : Criterion) : Prop where
  source : c.source = c'.source
  relationship : c.relationship = c'.relationship
  target : c.target = c'.target
  mode : c.mode = c'.mode
  filters : LikeFilters R c.filters c'.filters

/-- Criteria that are equal but for any texts of their filters; the same filters are set. -/
def DifferInFilterTexts (c c' : Criterion) : Prop :=
  LikeCriteria (fun _ _ => True) c c'

/-- Whether two texts are those of one filter in two lists of criteria. -/
def SameFilter (criteria criteria' : List Criterion) (s s' : String) : Prop :=
  ∃ c c' a, (c, c') ∈ criteria.zip criteria' ∧
    filterText? c.filters a = some s ∧ filterText? c'.filters a = some s'

/-- Two tokens that are equal, or hold two related texts. -/
inductive Token.Like (R : String → String → Prop) : Token → Token → Prop where
  | same (t : Token) : Like R t t
  | text {s s' : String} (h : R s s') : Like R (.text s) (.text s')

/-- Two sequences of tokens that are equal but for related texts. -/
def LikeTokens (R : String → String → Prop) : List Token → List Token → Prop :=
  List.Forall₂ (Token.Like R)

variable {R : String → String → Prop}

theorem LikeTokens.refl (ts : List Token) : LikeTokens R ts ts :=
  List.forall₂_same.mpr fun t _ => .same t

theorem LikeTokens.append {a a' b b' : List Token} (ha : LikeTokens R a a')
    (hb : LikeTokens R b b') : LikeTokens R (a ++ b) (a' ++ b') :=
  List.rel_append ha hb

namespace Predicate

def Like (R : String → String → Prop) (p q : Predicate) : Prop :=
  p.isCompound = q.isCompound ∧ LikeTokens R p.tokens q.tokens

theorem Like.refl (p : Predicate) : Like R p p :=
  ⟨rfl, .refl p.tokens⟩

theorem Like.memberTokens {p q : Predicate} (h : Like R p q) :
    LikeTokens R p.memberTokens q.memberTokens := by
  rw [memberTokens_eq, memberTokens_eq, h.1]
  split
  · exact .cons (.same _) (h.2.append (.refl _))
  · exact h.2

theorem likeTokens_joined {word : String} {ms ms' : List Predicate}
    (h : List.Forall₂ (Like R) ms ms') : LikeTokens R (joined word ms) (joined word ms') := by
  induction h with
  | nil => exact .refl _
  | cons hp hrest ih =>
      cases hrest with
      | nil => simpa only [joined] using hp.memberTokens
      | cons hq hrest =>
          rw [joined_cons_cons, joined_cons_cons]
          exact (hp.memberTokens.append (.refl _)).append ih

theorem Like.and {ms ms' : List Predicate} (h : List.Forall₂ (Like R) ms ms') :
    Like R (.and ms) (.and ms') := by
  refine ⟨rfl, ?_⟩
  rw [tokens, tokens]
  exact likeTokens_joined h

theorem Like.or {ms ms' : List Predicate} (h : List.Forall₂ (Like R) ms ms') :
    Like R (.or ms) (.or ms') := by
  refine ⟨rfl, ?_⟩
  rw [tokens, tokens]
  exact likeTokens_joined h

theorem Like.equal (var property : String) {s s' : String} (h : R s s') :
    Like R (.equal var property (.text s)) (.equal var property (.text s')) := by
  refine ⟨rfl, ?_⟩
  rw [tokens, tokens]
  exact (LikeTokens.refl _).append (.cons (.text h) .nil)

theorem likeAll {ms ms' : List Predicate} (h : List.Forall₂ (Like R) ms ms') :
    Option.Rel (Like R) (all ms) (all ms') := by
  cases h with
  | nil => exact .none
  | cons hp hrest =>
      cases hrest with
      | nil => exact .some hp
      | cons hq hrest => exact .some (.and (.cons hp (.cons hq hrest)))

theorem likeAny {ms ms' : List Predicate} (h : List.Forall₂ (Like R) ms ms') :
    Option.Rel (Like R) (any ms) (any ms') := by
  cases h with
  | nil => exact .none
  | cons hp hrest =>
      cases hrest with
      | nil => exact .some hp
      | cons hq hrest => exact .some (.or (.cons hp (.cons hq hrest)))

end Predicate

theorem like_sidePredicate (a : Attribute) {s s' : String} (h : R s s') (var : String)
    (b : Bearing) : (sidePredicate a s var b).Like R (sidePredicate a s' var b) := by
  cases b with
  | concrete kind => exact .equal var _ h
  | ambiguous =>
      unfold sidePredicate
      dsimp only
      split
      · exact .and (.cons (.refl _) (.cons (.equal var _ h) .nil))
      · refine .or (List.rel_map ?_ (List.forall₂_same.mpr fun _ _ => rfl))
        rintro kind _ rfl
        exact .and (.cons (.refl _) (.cons (.equal var _ h) .nil))

theorem requested_eq (f : Filters) :
    requested f = [Attribute.severity, .package, .cve].filterMap fun a =>
      (filterText? f a).map fun value => (a, value) := by
  simp only [requested, filterText?, List.filterMap_cons, List.filterMap_nil]

theorem like_requested {f f' : Filters} (h : LikeFilters R f f') :
    List.Forall₂ (fun r r' => r.1 = r'.1 ∧ R r.2 r'.2) (requested f) (requested f') := by
  rw [requested_eq, requested_eq]
  refine List.rel_filterMap ?_ (List.forall₂_same.mpr fun _ _ => rfl)
  rintro a _ rfl
  have hvalues := h a
  dsimp only
  generalize filterText? f a = value, filterText? f' a = value' at hvalues ⊢
  cases hvalues with
  | none => exact .none
  | some hvalue => exact .some ⟨rfl, hvalue⟩

theorem like_filterPredicate {f f' : Filters} (h : LikeFilters R f f') (sides : List Side) :
    Option.Rel (Predicate.Like R) (filterPredicate f sides) (filterPredicate f' sides) := by
  refine Predicate.likeAll (List.rel_filterMap ?_ (like_requested h))
  rintro ⟨a, s⟩ ⟨_, s'⟩ ⟨rfl, hs⟩
  refine Predicate.likeAny (List.rel_map ?_ (List.forall₂_same.mpr fun _ _ => rfl))
  rintro side _ rfl
  exact like_sidePredicate a hs side.1 side.2

/-- Two branches that are equal but for conditions that are written alike. -/
structure Branch.Like (R : String → String → Prop) (b b' : Branch) : Prop where
  patterns : b.patterns = b'.patterns
  condition : Option.Rel (Predicate.Like R) b.condition b'.condition
  unwinding : b.unwinding = b'.unwinding
  columns : b.columns = b'.columns

theorem Branch.Like.refl (b : Branch) : Branch.Like R b b where
  patterns := rfl
  condition := by
    cases b.condition with
    | none => exact .none
    | some p => exact .some (.refl p)
  unwinding := rfl
  columns := rfl

theorem likeTokens_conditionTokens {c c' : Option Predicate}
    (h : Option.Rel (Predicate.Like R) c c') :
    LikeTokens R (conditionTokens c) (conditionTokens c') := by
  cases h with
  | none => exact .refl _
  | some hp => exact ((LikeTokens.refl _).append hp.2).append (.refl _)

theorem Branch.Like.tokens {b b' : Branch} (h : Branch.Like R b b') :
    LikeTokens R b.tokens b'.tokens := by
  have hcondition := likeTokens_conditionTokens h.condition
  rw [Branch.tokens, Branch.tokens, h.patterns, h.unwinding, h.columns]
  exact (((LikeTokens.refl _).append hcondition).append (.refl _)).append (.refl _)

theorem like_criterionBranches (purpose : Purpose) {c c' : Criterion} (h : LikeCriteria R c c') :
    List.Forall₂ (Branch.Like R) (criterionBranches purpose c) (criterionBranches purpose c') := by
  have hlink (source target : Selector) (kind : Option String) (link : String) :
      Branch.Like R (linkBranch purpose source kind target link c.filters)
        (linkBranch purpose source kind target link c'.filters) :=
    ⟨rfl, like_filterPredicate h.filters _, rfl, rfl⟩
  unfold criterionBranches Criterion.targetOrAny Criterion.relationshipOrAny
  rw [h.source, h.relationship, h.target, h.mode]
  dsimp only
  cases c'.mode with
  | singleNode => exact .cons ⟨rfl, like_filterPredicate h.filters _, rfl, rfl⟩ .nil
  | fullGraph => exact .cons ⟨rfl, like_filterPredicate h.filters _, rfl, rfl⟩ .nil
  | relationship => exact .cons (hlink _ _ _ _) .nil
  | bidirectional =>
      dsimp only
      split
      · exact .cons (hlink _ _ _ _) (.cons (hlink _ _ _ _) .nil)
      · exact .cons (hlink _ _ _ _) .nil

theorem like_criteriaBranches (purpose : Purpose) {cs cs' : List Criterion}
    (h : List.Forall₂ (LikeCriteria R) cs cs') :
    List.Forall₂ (Branch.Like R) (criteriaBranches purpose cs) (criteriaBranches purpose cs') := by
  have hblank {c c' : Criterion} (hc : LikeCriteria R c c') : c.isBlank = c'.isBlank := by
    rw [Criterion.isBlank, Criterion.isBlank, hc.source]
  cases h with
  | nil => exact .cons (.refl _) .nil
  | cons hc hrest =>
      rw [criteriaBranches, criteriaBranches, hblank hc]
      split
      · exact .cons (.refl _) .nil
      · refine List.rel_flatMap (List.rel_filter ?_ (.cons hc hrest)) ?_
        · intro d d' hd
          simp only [hblank hd]
        · exact fun _ _ hd => like_criterionBranches purpose hd

theorem likeTokens_branchTokens (u : Union) {bs bs' : List Branch}
    (h : List.Forall₂ (Branch.Like R) bs bs') :
    LikeTokens R (Program.branchTokens u bs) (Program.branchTokens u bs') := by
  induction h with
  | nil => exact .refl _
  | cons hb hrest ih =>
      cases hrest with
      | nil => exact hb.tokens
      | cons hc hrest => exact (hb.tokens.append (.refl _)).append ih

theorem Program.likeTokens {p p' : Program} (hunion : p.union = p'.union)
    (hlimit : p.limit = p'.limit) (h : List.Forall₂ (Branch.Like R) p.branches p'.branches) :
    LikeTokens R p.tokens p'.tokens := by
  have hbranches := likeTokens_branchTokens p'.union h
  unfold Program.tokens
  rw [hunion, hlimit, h.length_eq]
  cases p'.limit with
  | none => exact hbranches
  | some limit =>
      refine LikeTokens.append ?_ (.refl _)
      split
      · exact (((LikeTokens.refl _).append hbranches).append (.refl _)).append (.refl _)
      · exact hbranches

theorem like_program (purpose : Purpose) {cs cs' : List Criterion} (limit : Nat)
    (showInternet : Bool) (h : List.Forall₂ (LikeCriteria R) cs cs') :
    LikeTokens R (program purpose cs limit showInternet).tokens
      (program purpose cs' limit showInternet).tokens := by
  have hcriteria := like_criteriaBranches purpose h
  cases purpose with
  | count => exact Program.likeTokens rfl rfl hcriteria
  | data =>
      exact Program.likeTokens rfl rfl
        (List.rel_append hcriteria (List.forall₂_same.mpr fun b _ => .refl b))

theorem likeFilters_mono {R R' : String → String → Prop} {f f' : Filters} (h : LikeFilters R f f')
    (hmono : ∀ a s s', filterText? f a = some s → filterText? f' a = some s' → R s s' → R' s s') :
    LikeFilters R' f f' := by
  intro a
  have hvalues := h a
  have hmono := hmono a
  generalize filterText? f a = value, filterText? f' a = value' at hvalues hmono ⊢
  cases hvalues with
  | none => exact .none
  | some hs => exact .some (hmono _ _ rfl rfl hs)

/-- Whatever the texts of the filters are, they are related by standing in the same filter. -/
theorem likeCriteria_sameFilter {cs cs' : List Criterion}
    (h : List.Forall₂ DifferInFilterTexts cs cs') :
    List.Forall₂ (LikeCriteria (SameFilter cs cs')) cs cs' := by
  refine List.forall₂_iff_zip.mpr ⟨h.length_eq, ?_⟩
  intro c c' hmem
  have hc : DifferInFilterTexts c c' := List.forall₂_zip h hmem
  refine ⟨hc.source, hc.relationship, hc.target, hc.mode, likeFilters_mono hc.filters ?_⟩
  exact fun a s s' hs hs' _ => ⟨c, c', a, hmem, hs, hs'⟩

/-- No text of a filter changes the structure of a compiled program: its text is read back as the
tokens of its tree, and with other texts in the same filters it is read as the same tokens but for
those texts. -/
theorem program_keeps_structure (purpose : Purpose) (criteria : List Criterion) (limit : Nat)
    (showInternet : Bool) :
    (program purpose criteria limit showInternet).ReadsBack ∧
      ∀ criteria', List.Forall₂ DifferInFilterTexts criteria criteria' →
        ∃ tokens tokens', lex (program purpose criteria limit showInternet).text = some tokens ∧
          lex (program purpose criteria' limit showInternet).text = some tokens' ∧
          LikeTokens (SameFilter criteria criteria') tokens tokens' := by
  have hreads (criteria : List Criterion) :
      (program purpose criteria limit showInternet).ReadsBack :=
    Program.readsBack (hasWordVariables_program purpose criteria limit showInternet)
  refine ⟨hreads criteria, ?_⟩
  intro criteria' h
  refine ⟨_, _, (hreads criteria).lex_eq, (hreads criteria').lex_eq, ?_⟩
  exact like_program purpose limit showInternet (likeCriteria_sameFilter h)

/-- A text that tries to end its token reads like any other. -/
theorem program_keeps_structure_hostile_severity :
    let asking (severity : String) : List Criterion :=
      [{ source := some (.named "vulnerability"), mode := .singleNode,
         filters := { severity := some severity } }]
    List.Forall₂ DifferInFilterTexts (asking "high") (asking "\\' OR n.x = '\\") ∧
      ∃ tokens tokens', lex (program .data (asking "high") 25 false).text = some tokens ∧
        lex (program .data (asking "\\' OR n.x = '\\") 25 false).text = some tokens' ∧
        LikeTokens (SameFilter (asking "high") (asking "\\' OR n.x = '\\")) tokens tokens' := by
  intro asking
  have hdiffer : List.Forall₂ DifferInFilterTexts (asking "high") (asking "\\' OR n.x = '\\") := by
    refine .cons ⟨rfl, rfl, rfl, rfl, ?_⟩ .nil
    rintro (_ | _ | _)
    · exact .some trivial
    · exact .none
    · exact .none
  exact ⟨hdiffer, (program_keeps_structure .data (asking "high") 25 false).2 _ hdiffer⟩

end AssetAtlas.Query
