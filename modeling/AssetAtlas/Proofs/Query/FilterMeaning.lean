import AssetAtlas.Proofs.Query.Conditions
import AssetAtlas.Proofs.Query.FilterTexts

/-!
What the condition for filters means: every filter that is set holds on some side that it is about.
These are the sides bound to a kind of vulnerability or, if there are none, those open to anything.
On an open side the node has to be of one of the kinds, and the kind decides under which name it
carries the attribute.
-/

namespace AssetAtlas.Query

/-- The nodes of a side are vulnerabilities of one kind. -/
def Side.IsBoundTo (s : Side) (kind : VulnerabilityKind) : Prop :=
  ∃ label, s.selector = .named label ∧ Text.sameIgnoringCase label kind.label = true

/-- One of the sides that the filters are about. -/
def Scoped (sides : List Side) (s : Side) : Prop :=
  s ∈ sides ∧
    ((∃ kind, s.IsBoundTo kind) ∨ s.selector = .any ∧ ∀ t ∈ sides, ∀ kind, ¬ t.IsBoundTo kind)

/-- A node gives an attribute, under the name that it has for one kind, a value. -/
def StoredNode.HasAttribute (n : StoredNode) (kind : VulnerabilityKind) (a : Attribute)
    (value : String) : Prop :=
  n.properties.find? (kind.property a) = some (.string value)

/-- A filter is satisfied by a node on a side. -/
def Side.Satisfies (s : Side) (n : StoredNode) (a : Attribute) (value : String) : Prop :=
  (∃ kind, s.IsBoundTo kind ∧ n.HasAttribute kind a value) ∨
    s.selector = .any ∧ ∃ kind : VulnerabilityKind, kind.label ∈ n.labels ∧
      n.HasAttribute kind a value

/-! ## Sides -/

theorem VulnerabilityKind.mem_all (kind : VulnerabilityKind) : kind ∈ all := by
  cases kind <;> simp [all]

theorem VulnerabilityKind.ofLabel?_eq_some_iff {label : String} {kind : VulnerabilityKind} :
    ofLabel? label = some kind ↔ Text.sameIgnoringCase label kind.label = true := by
  constructor
  · intro h
    simpa using List.find?_some h
  · intro h
    have hlower : Text.asciiLower label = Text.asciiLower kind.label := by
      simpa [Text.sameIgnoringCase] using h
    -- no label is that of two kinds
    have hother : ∀ other : VulnerabilityKind, other ≠ kind →
        Text.sameIgnoringCase label other.label = false := by
      intro other hne
      rw [Text.sameIgnoringCase, hlower]
      clear h hlower
      revert hne
      cases kind <;> cases other <;> decide +kernel
    cases kind <;> simp [ofLabel?, all, h, hother]

theorem Side.isBoundTo_iff {s : Side} {kind : VulnerabilityKind} :
    s.IsBoundTo kind ↔ Bearing.ofSelector? s.selector = some (.concrete kind) := by
  unfold IsBoundTo Bearing.ofSelector?
  cases s.selector <;> simp [VulnerabilityKind.ofLabel?_eq_some_iff]

theorem Side.isOpen_iff {s : Side} :
    s.selector = .any ↔ Bearing.ofSelector? s.selector = some .ambiguous := by
  unfold Bearing.ofSelector?
  cases s.selector <;> simp

theorem Bearing.isConcrete_iff {b : Bearing} : b.isConcrete = true ↔ ∃ kind, b = .concrete kind := by
  cases b <;> simp [isConcrete]

def bearingSides (sides : List Side) : List (String × Bearing) :=
  sides.filterMap fun s => (Bearing.ofSelector? s.selector).map fun b => (s.var, b)

theorem mem_bearingSides_iff {sides : List Side} {var : String} {b : Bearing} :
    (var, b) ∈ bearingSides sides ↔
      ∃ s ∈ sides, s.var = var ∧ Bearing.ofSelector? s.selector = some b := by
  simp only [bearingSides, List.mem_filterMap, Option.map_eq_some_iff, Prod.mk.injEq]
  constructor
  · rintro ⟨s, hs, b, hb, rfl, rfl⟩
    exact ⟨s, hs, rfl, hb⟩
  · rintro ⟨s, hs, rfl, hb⟩
    exact ⟨s, hs, b, hb, rfl, rfl⟩

theorem any_isConcrete_iff {sides : List Side} :
    (bearingSides sides).any (·.2.isConcrete) = true ↔
      ∃ t ∈ sides, ∃ kind, t.IsBoundTo kind := by
  simp only [List.any_eq_true, Bearing.isConcrete_iff, Side.isBoundTo_iff]
  constructor
  · rintro ⟨⟨var, b⟩, hmem, kind, rfl⟩
    obtain ⟨t, ht, -, hb⟩ := mem_bearingSides_iff.mp hmem
    exact ⟨t, ht, kind, hb⟩
  · rintro ⟨t, ht, kind, hb⟩
    exact ⟨(t.var, _), mem_bearingSides_iff.mpr ⟨t, ht, rfl, hb⟩, kind, rfl⟩

theorem mem_scopedSides_iff {sides : List Side} {var : String} {b : Bearing} :
    (var, b) ∈ scopedSides sides ↔
      ∃ s, Scoped sides s ∧ s.var = var ∧ Bearing.ofSelector? s.selector = some b := by
  have hscoped : scopedSides sides = if (bearingSides sides).any (·.2.isConcrete) then
      (bearingSides sides).filter (·.2.isConcrete) else bearingSides sides := rfl
  rw [hscoped]
  split
  · next hbound =>
      obtain ⟨t, ht, kind, hkind⟩ := any_isConcrete_iff.mp hbound
      rw [List.mem_filter, mem_bearingSides_iff, Bearing.isConcrete_iff]
      constructor
      · rintro ⟨⟨s, hs, hvar, hb⟩, kind, rfl⟩
        exact ⟨s, ⟨hs, .inl ⟨kind, Side.isBoundTo_iff.mpr hb⟩⟩, hvar, hb⟩
      · rintro ⟨s, ⟨hs, ⟨kind, hs'⟩ | ⟨-, hnone⟩⟩, hvar, hb⟩
        · have hb' := Side.isBoundTo_iff.mp hs'
          exact ⟨⟨s, hs, hvar, hb⟩, kind, Option.some.inj (hb.symm.trans hb')⟩
        · exact absurd hkind (hnone t ht kind)
  · next hfree =>
      rw [any_isConcrete_iff, not_exists] at hfree
      have hnone : ∀ t ∈ sides, ∀ kind, ¬ t.IsBoundTo kind :=
        fun t ht kind hkind => hfree t ⟨ht, kind, hkind⟩
      rw [mem_bearingSides_iff]
      constructor
      · rintro ⟨s, hs, hvar, hb⟩
        cases b with
        | concrete kind => exact absurd (Side.isBoundTo_iff.mpr hb) (hnone s hs kind)
        | ambiguous => exact ⟨s, ⟨hs, .inr ⟨Side.isOpen_iff.mpr hb, hnone⟩⟩, hvar, hb⟩
      · rintro ⟨s, ⟨hs, -⟩, hvar, hb⟩
        exact ⟨s, hs, hvar, hb⟩

theorem exists_bearing_of_scoped {sides : List Side} {s : Side} (h : Scoped sides s) :
    ∃ b, Bearing.ofSelector? s.selector = some b := by
  rcases h.2 with ⟨kind, hs⟩ | ⟨hs, -⟩
  · exact ⟨_, Side.isBoundTo_iff.mp hs⟩
  · exact ⟨_, Side.isOpen_iff.mp hs⟩

theorem scopedSides_eq_nil_iff {sides : List Side} :
    scopedSides sides = [] ↔ ∀ s, ¬ Scoped sides s := by
  rw [List.eq_nil_iff_forall_not_mem]
  constructor
  · intro hnil s hs
    obtain ⟨b, hb⟩ := exists_bearing_of_scoped hs
    exact hnil (s.var, b) (mem_scopedSides_iff.mpr ⟨s, hs, rfl, hb⟩)
  · rintro hnone ⟨var, b⟩ hmem
    obtain ⟨s, hs, -⟩ := mem_scopedSides_iff.mp hmem
    exact hnone s hs

/-! ## Filters -/

theorem mem_requested_iff {f : Filters} {a : Attribute} {value : String} :
    (a, value) ∈ requested f ↔ filterText? f a = some value := by
  cases a <;> simp [requested_eq]

theorem requested_eq_nil_iff {f : Filters} : requested f = [] ↔ f.isEmpty = true := by
  cases hs : f.severity <;> cases hp : f.package <;> cases hc : f.cve <;>
    simp [requested, Filters.isEmpty, hs, hp, hc]

namespace Predicate

theorem all_eq_none_iff {members : List Predicate} : all members = none ↔ members = [] := by
  match members with
  | [] | [_] | _ :: _ :: _ => simp [all]

theorem any_eq_none_iff {members : List Predicate} : any members = none ↔ members = [] := by
  match members with
  | [] | [_] | _ :: _ :: _ => simp [any]

end Predicate

namespace PropertyGraph

variable (g : PropertyGraph) (σ : Assignment)

theorem allHold_iff (members : List Predicate) :
    g.allHold σ members = true ↔ ∀ p ∈ members, g.holds σ p = true := by
  induction members with
  | nil => simp
  | cons p rest ih => simp [ih]

theorem holds_all_iff {members : List Predicate} {p : Predicate}
    (h : Predicate.all members = some p) :
    g.holds σ p = true ↔ ∀ q ∈ members, g.holds σ q = true := by
  match members, h with
  | [q], rfl => simp
  | q :: q' :: rest, rfl => exact g.allHold_iff σ _

theorem holds_any_iff {members : List Predicate} {p : Predicate}
    (h : Predicate.any members = some p) :
    g.holds σ p = true ↔ ∃ q ∈ members, g.holds σ q = true := by
  match members, h with
  | [q], rfl => simp
  | q :: q' :: rest, rfl => exact g.someHolds_iff σ _

theorem holds_or_kinds_iff (p : VulnerabilityKind → Predicate) :
    g.holds σ (.or (VulnerabilityKind.all.map p)) = true ↔
      ∃ kind, g.holds σ (p kind) = true := by
  rw [holds, g.someHolds_iff]
  simp [VulnerabilityKind.mem_all]

end PropertyGraph

section

variable {g : PropertyGraph} {σ : Assignment} {s : Side} {n : StoredNode} (hn : n ∈ g.nodes)
  (hvar : σ.value s.var = .node n.id)

include hn hvar

theorem holds_sidePredicate_concrete_iff (a : Attribute) (value : String)
    (kind : VulnerabilityKind) :
    g.holds σ (sidePredicate a value s.var (.concrete kind)) = true ↔
      n.HasAttribute kind a value :=
  PropertyGraph.holds_equal_text_iff hn hvar _ _

theorem holds_sidePredicate_ambiguous_iff (a : Attribute) (value : String) :
    g.holds σ (sidePredicate a value s.var .ambiguous) = true ↔
      ∃ kind : VulnerabilityKind, kind.label ∈ n.labels ∧ n.HasAttribute kind a value := by
  have hlabel := PropertyGraph.holds_hasLabel_iff hn hvar
  have hequal := PropertyGraph.holds_equal_text_iff hn hvar
  unfold sidePredicate
  dsimp only
  split
  · next hshared =>
      -- the attribute has one name, so it is asked for once
      have hname : ∀ kind : VulnerabilityKind,
          kind.property a = VulnerabilityKind.scanned.property a := fun kind =>
        of_decide_eq_true (List.all_eq_true.mp hshared kind kind.mem_all)
      rw [g.holds_and_pair_iff, g.holds_or_kinds_iff, hequal]
      simp only [hlabel, StoredNode.HasAttribute, hname, exists_and_right]
  · rw [g.holds_or_kinds_iff]
    simp only [g.holds_and_pair_iff, hlabel, hequal, StoredNode.HasAttribute]

theorem holds_sidePredicate_iff {b : Bearing} (hb : Bearing.ofSelector? s.selector = some b)
    (a : Attribute) (value : String) :
    g.holds σ (sidePredicate a value s.var b) = true ↔ s.Satisfies n a value := by
  unfold Side.Satisfies
  simp only [Side.isBoundTo_iff, Side.isOpen_iff, hb]
  cases b with
  | concrete kind => simp [holds_sidePredicate_concrete_iff hn hvar]
  | ambiguous => simp [holds_sidePredicate_ambiguous_iff hn hvar]

end

/-- The condition of one filter: it holds on one of the sides. -/
def filterCondition? (sides : List Side) (a : Attribute) (value : String) : Option Predicate :=
  Predicate.any ((scopedSides sides).map fun (var, bearing) => sidePredicate a value var bearing)

theorem filterPredicate_eq (f : Filters) (sides : List Side) : filterPredicate f sides =
    Predicate.all ((requested f).filterMap fun r => filterCondition? sides r.1 r.2) :=
  rfl

theorem filterCondition?_eq_none_iff {sides : List Side} {a : Attribute} {value : String} :
    filterCondition? sides a value = none ↔ ∀ s, ¬ Scoped sides s := by
  rw [filterCondition?, Predicate.any_eq_none_iff, List.map_eq_nil_iff, scopedSides_eq_nil_iff]

theorem filterPredicate_eq_none_iff {f : Filters} {sides : List Side} :
    filterPredicate f sides = none ↔ f.isEmpty = true ∨ ∀ s, ¬ Scoped sides s := by
  rw [filterPredicate_eq, Predicate.all_eq_none_iff, List.filterMap_eq_nil_iff,
    ← requested_eq_nil_iff]
  simp only [filterCondition?_eq_none_iff]
  constructor
  · intro h
    rcases hrequested : requested f with _ | ⟨r, rest⟩
    · exact .inl rfl
    · exact .inr (h r (hrequested ▸ List.mem_cons_self))
  · rintro (hnone | hnone) r hr
    · rw [hnone] at hr
      exact absurd hr List.not_mem_nil
    · exact hnone

section

variable {g : PropertyGraph} {σ : Assignment} {node : String → StoredNode} {sides : List Side}
  (hnodes : ∀ s ∈ sides, node s.var ∈ g.nodes ∧ σ.value s.var = .node (node s.var).id)

include hnodes

theorem holds_filterCondition_iff {a : Attribute} {value : String} {p : Predicate}
    (hp : filterCondition? sides a value = some p) :
    g.holds σ p = true ↔ ∃ s, Scoped sides s ∧ s.Satisfies (node s.var) a value := by
  rw [g.holds_any_iff σ hp]
  constructor
  · rintro ⟨q, hq, hholds⟩
    obtain ⟨⟨var, b⟩, hside, rfl⟩ := List.mem_map.mp hq
    obtain ⟨s, hs, rfl, hb⟩ := mem_scopedSides_iff.mp hside
    obtain ⟨hn, hvar⟩ := hnodes s hs.1
    exact ⟨s, hs, (holds_sidePredicate_iff hn hvar hb a value).mp hholds⟩
  · rintro ⟨s, hs, hsatisfies⟩
    obtain ⟨b, hb⟩ := exists_bearing_of_scoped hs
    obtain ⟨hn, hvar⟩ := hnodes s hs.1
    refine ⟨sidePredicate a value s.var b, ?_, ?_⟩
    · exact List.mem_map.mpr ⟨(s.var, b), mem_scopedSides_iff.mpr ⟨s, hs, rfl, hb⟩, rfl⟩
    · exact (holds_sidePredicate_iff hn hvar hb a value).mpr hsatisfies

theorem holds_filterPredicate_iff {f : Filters} {p : Predicate}
    (hp : filterPredicate f sides = some p) :
    g.holds σ p = true ↔ ∀ a value, filterText? f a = some value →
      ∃ s, Scoped sides s ∧ s.Satisfies (node s.var) a value := by
  have hscoped : ¬ ∀ s, ¬ Scoped sides s := by
    intro hnone
    rw [filterPredicate_eq_none_iff.mpr (.inr hnone)] at hp
    exact absurd hp nofun
  rw [g.holds_all_iff σ hp]
  constructor
  · intro hall a value hvalue
    obtain ⟨q, hq⟩ : ∃ q, filterCondition? sides a value = some q :=
      Option.ne_none_iff_exists'.mp (mt filterCondition?_eq_none_iff.mp hscoped)
    have hmem : q ∈ (requested f).filterMap fun r => filterCondition? sides r.1 r.2 :=
      List.mem_filterMap.mpr ⟨(a, value), mem_requested_iff.mpr hvalue, hq⟩
    exact (holds_filterCondition_iff hnodes hq).mp (hall q hmem)
  · intro hall q hq
    obtain ⟨⟨a, value⟩, hr, hq⟩ := List.mem_filterMap.mp hq
    exact (holds_filterCondition_iff hnodes hq).mpr (hall a value (mem_requested_iff.mp hr))

end

/-- The condition for filters, on sides that all have a node: every filter that is set is satisfied
on one of the sides that the filters are about. Without a filter or such a side there is no
condition. A node on an open side that has no label of a vulnerability satisfies no filter. -/
theorem filterPredicate_means (f : Filters) (sides : List Side) :
    (filterPredicate f sides = none ↔ f.isEmpty = true ∨ ∀ s, ¬ Scoped sides s) ∧
      ∀ (g : PropertyGraph) (σ : Assignment) (node : String → StoredNode),
        (∀ s ∈ sides, node s.var ∈ g.nodes ∧ σ.value s.var = .node (node s.var).id) →
        (∀ p, filterPredicate f sides = some p →
          (g.holds σ p = true ↔ ∀ a value, filterText? f a = some value →
            ∃ s, Scoped sides s ∧ s.Satisfies (node s.var) a value)) ∧
        ∀ s ∈ sides, s.selector = .any →
          (∀ kind : VulnerabilityKind, kind.label ∉ (node s.var).labels) →
          ∀ b, Bearing.ofSelector? s.selector = some b →
            ∀ a value, g.holds σ (sidePredicate a value s.var b) = false := by
  refine ⟨filterPredicate_eq_none_iff, ?_⟩
  intro g σ node hnodes
  refine ⟨fun p hp => holds_filterPredicate_iff hnodes hp, ?_⟩
  intro s hs hopen hlabels b hb a value
  obtain ⟨hn, hvar⟩ := hnodes s hs
  obtain rfl : b = .ambiguous := Option.some.inj (hb.symm.trans (Side.isOpen_iff.mp hopen))
  rw [← Bool.not_eq_true, holds_sidePredicate_ambiguous_iff hn hvar]
  rintro ⟨kind, hlabel, -⟩
  exact hlabels kind hlabel

/-- A vulnerability that a scanner found in a package. -/
def scannedNode : StoredNode where
  id := 0
  labels := ["vulnerability"]
  properties := ⟨[("pkgname", .string "openssl"), ("severity", .string "high")], by decide⟩

/-- A server that has a severity of its own. -/
def severeServer : StoredNode where
  id := 1
  labels := ["server"]
  properties := ⟨[("severity", .string "high")], by decide⟩

def scannedStore : PropertyGraph where
  nodes := [scannedNode, severeServer]
  links := []
  nodes_nodup := by decide
  links_nodup := List.nodup_nil
  ends_mem := List.forall_mem_nil _

/-- Two open sides: one satisfies both filters, the other none of them, whatever it has. -/
theorem filterPredicate_means_open_sides :
    let σ : Assignment := ⟨[("n", .node 0), ("m", .node 1)]⟩
    let node := fun var => if var = "n" then scannedNode else severeServer
    let sides : List Side := [⟨"n", .any⟩, ⟨"m", .any⟩]
    let f : Filters := { severity := some "high", package := some "openssl" }
    (∀ s ∈ sides, node s.var ∈ scannedStore.nodes ∧ σ.value s.var = .node (node s.var).id) ∧
      (∃ p, filterPredicate f sides = some p ∧ scannedStore.holds σ p = true ∧
        ∀ a value, filterText? f a = some value →
          ∃ s, Scoped sides s ∧ s.Satisfies (node s.var) a value) ∧
      (∀ kind : VulnerabilityKind, kind.label ∉ (node "m").labels) ∧
      scannedStore.holds σ (sidePredicate .severity "high" "m" .ambiguous) = false := by
  intro σ node sides f
  have hnodes : ∀ s ∈ sides, node s.var ∈ scannedStore.nodes ∧
      σ.value s.var = .node (node s.var).id :=
    List.forall_mem_cons.mpr ⟨⟨List.mem_cons_self, rfl⟩,
      List.forall_mem_singleton.mpr ⟨List.mem_cons_of_mem _ List.mem_cons_self, rfl⟩⟩
  have hlabels : ∀ kind : VulnerabilityKind, kind.label ∉ (node "m").labels := by
    intro kind
    cases kind <;> decide
  obtain ⟨-, hmeans⟩ := filterPredicate_means f sides
  obtain ⟨hcondition, hopen⟩ := hmeans scannedStore σ node hnodes
  have hholds : scannedStore.holds σ ((filterPredicate f sides).get rfl) = true := by
    decide +kernel
  refine ⟨hnodes, ⟨_, (Option.some_get _).symm, hholds, ?_⟩, hlabels, ?_⟩
  · exact (hcondition _ (Option.some_get _).symm).mp hholds
  · exact hopen ⟨"m", .any⟩ (List.mem_cons_of_mem _ List.mem_cons_self) rfl hlabels _ rfl _ _

end AssetAtlas.Query
