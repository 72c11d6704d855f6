import Mathlib.Data.Set.Insert
import Mathlib.Order.Bounds.Basic
import Mathlib.Order.Nat
import Mathlib.Tactic.Tauto
import AssetAtlas.Graph.Layout
import AssetAtlas.Proofs.Dictionary
import AssetAtlas.Proofs.Graph.WellFormed

/-!
The levels of a graph are distances. A node that can be reached from a root gets the length of a
shortest way from the roots. The other nodes are reached from later starts, which are chosen in the
order of the nodes, and each of them gets the length of a shortest way from the first start that
reaches it.

A search keeps one invariant: the nodes in the queue stand in the order of their distances, which
differ by one at most, and whatever left the queue has its levels handed on. So a node that has no
level yet when it is met is at least one step farther away than the node whose links are followed.
-/

namespace AssetAtlas

namespace Levels

/-- There is a way of so many steps from one node to another. -/
inductive Way (R : String → String → Prop) : Nat → String → String → Prop where
  | here (a : String) : Way R 0 a a
  | step {n : Nat} {a b c : String} (h : Way R n a b) (hbc : R b c) : Way R (n + 1) a c

def Reaches (R : String → String → Prop) (a b : String) : Prop :=
  ∃ n, Way R n a b

/-- The nodes that can be reached from some of the nodes of a set. -/
def reachedFrom (R : String → String → Prop) (starts : Set String) : Set String :=
  {v | ∃ s ∈ starts, Reaches R s v}

/-- The lengths of the ways that lead to a node from those of a set. -/
def wayLengths (R : String → String → Prop) (starts : Set String) (v : String) : Set Nat :=
  {n | ∃ s ∈ starts, Way R n s v}

open scoped Classical in
/-- The nodes of a list, in its order, that are reached neither at the outset nor from an earlier
one of them. -/
noncomputable def laterStarts (R : String → String → Prop) (reached : Set String) :
    List String → List String
  | [] => []
  | id :: rest =>
    if id ∈ reached then laterStarts R reached rest
    else id :: laterStarts R (reached ∪ reachedFrom R {id}) rest

/-! ## Ways -/

section

variable {R : String → String → Prop} {starts : Set String} {n : Nat} {v : String}

theorem zero_mem_wayLengths_iff : 0 ∈ wayLengths R starts v ↔ v ∈ starts := by
  constructor
  · rintro ⟨s, hs, hway⟩
    cases hway with
    | here => exact hs
  · intro hv
    exact ⟨v, hv, .here v⟩

theorem succ_mem_wayLengths_iff :
    n + 1 ∈ wayLengths R starts v ↔ ∃ w, n ∈ wayLengths R starts w ∧ R w v := by
  constructor
  · rintro ⟨s, hs, hway⟩
    cases hway with
    | step h hwv => exact ⟨_, ⟨s, hs, h⟩, hwv⟩
  · rintro ⟨w, ⟨s, hs, h⟩, hwv⟩
    exact ⟨s, hs, h.step hwv⟩

theorem isLeast_zero_iff : IsLeast (wayLengths R starts v) 0 ↔ v ∈ starts := by
  constructor
  · intro h
    exact zero_mem_wayLengths_iff.mp h.1
  · intro hv
    exact ⟨zero_mem_wayLengths_iff.mpr hv, fun n _ => Nat.zero_le n⟩

theorem isLeast_succ_iff : IsLeast (wayLengths R starts v) (n + 1) ↔
    n + 1 ∈ wayLengths R starts v ∧ ∀ m ≤ n, m ∉ wayLengths R starts v := by
  constructor
  · rintro ⟨hmem, hleast⟩
    refine ⟨hmem, fun m hm hway => ?_⟩
    have hlength := hleast hway
    omega
  · rintro ⟨hmem, hfar⟩
    refine ⟨hmem, fun m hm => ?_⟩
    by_contra hlt
    exact hfar m (by omega) hm

theorem mem_reachedFrom_iff_exists_isLeast :
    v ∈ reachedFrom R starts ↔ ∃ k, IsLeast (wayLengths R starts v) k := by
  classical
  constructor
  · rintro ⟨s, hs, n, hway⟩
    have hsome : (wayLengths R starts v).Nonempty := ⟨n, s, hs, hway⟩
    exact ⟨_, hsome.isLeast_natFind⟩
  · rintro ⟨k, ⟨s, hs, hway⟩, -⟩
    exact ⟨s, hs, k, hway⟩

theorem mem_reachedFrom_singleton {id : String} : v ∈ reachedFrom R {id} ↔ Reaches R id v := by
  simp [reachedFrom]

theorem reachedFrom_closed {a b : String} (ha : a ∈ reachedFrom R starts) (hab : R a b) :
    b ∈ reachedFrom R starts := by
  obtain ⟨s, hs, n, hway⟩ := ha
  exact ⟨s, hs, n + 1, hway.step hab⟩

theorem Reaches.refl (v : String) : Reaches R v v :=
  ⟨0, .here v⟩

theorem Reaches.mem_of_closed {nodes : Set String} (hclosed : ∀ a b, R a b → a ∈ nodes → b ∈ nodes)
    {a b : String} (h : Reaches R a b) (ha : a ∈ nodes) : b ∈ nodes := by
  obtain ⟨n, hway⟩ := h
  induction hway with
  | here => exact ha
  | step _ hbc ih => exact hclosed _ _ hbc (ih ha)

theorem Reaches.mem_ids {ids : List String} (hends : ∀ a b, R a b → a ∈ ids ∧ b ∈ ids)
    {a b : String} (h : Reaches R a b) (ha : a ∈ ids) : b ∈ ids := by
  have hclosed : ∀ a b, R a b → a ∈ {w | w ∈ ids} → b ∈ {w | w ∈ ids} :=
    fun a b hab _ => (hends a b hab).2
  exact h.mem_of_closed hclosed ha

end

/-! ## The queue -/

namespace Search

def HasLevel (s : Search) (v : String) : Prop :=
  s.levels.contains v = true

theorem not_hasLevel_iff {s : Search} {v : String} :
    ¬ s.HasLevel v ↔ s.levels.find? v = none := by
  rw [HasLevel, Dictionary.contains, Option.not_isSome_iff_eq_none]

theorem hasLevel_iff {s : Search} {v : String} :
    s.HasLevel v ↔ ∃ k, s.levels.find? v = some k := by
  rw [HasLevel, Dictionary.contains, Option.isSome_iff_exists]

/-- After some nodes were visited, those of them that had no level have the new one and stand at the
end of the queue; nothing else has changed. -/
theorem exists_foldl_visit (level : Nat) (targets : List String) (s : Search) :
    ∃ fresh, (targets.foldl (visit level) s).queue = s.queue ++ fresh ∧
      (∀ v, v ∈ fresh ↔ v ∈ targets ∧ ¬ s.HasLevel v) ∧
      ∀ v, (targets.foldl (visit level) s).levels.find? v =
        if v ∈ fresh then some level else s.levels.find? v := by
  classical
  induction targets generalizing s with
  | nil => exact ⟨[], by simp⟩
  | cons id rest ih =>
      obtain ⟨fresh, hqueue, hfresh, hlevels⟩ := ih (s.visit level id)
      rw [List.foldl_cons]
      by_cases hid : s.HasLevel id
      · have hvisit : s.visit level id = s := if_pos hid
        rw [hvisit] at hqueue hfresh hlevels ⊢
        refine ⟨fresh, hqueue, fun v => ?_, hlevels⟩
        rw [hfresh, List.mem_cons]
        constructor
        · rintro ⟨hv, hnew⟩
          exact ⟨.inr hv, hnew⟩
        · rintro ⟨rfl | hv, hnew⟩
          · exact absurd hid hnew
          · exact ⟨hv, hnew⟩
      · have hvisit : s.visit level id =
            { levels := s.levels.insert id level, queue := s.queue ++ [id] } := if_neg hid
        have hhas (v : String) : (s.visit level id).HasLevel v ↔ v = id ∨ s.HasLevel v := by
          rw [HasLevel, hvisit, contains_insert, Bool.or_eq_true, beq_iff_eq]
          rfl
        refine ⟨id :: fresh, ?_, fun v => ?_, fun v => ?_⟩
        · rw [hqueue, hvisit, List.append_assoc]
          rfl
        · rw [List.mem_cons, hfresh, hhas, List.mem_cons]
          by_cases hv : v = id
          · simp [hv, hid]
          · simp [hv]
        · rw [hlevels, hvisit, Dictionary.find?_insert]
          by_cases hv : v = id
          · subst hv
            simp
          · simp [hv]

end Search

section

variable {ids : List String} {links : List (String × String)} {R : String → String → Prop}
  {known : Dictionary Nat} {starts : Set String}

/-- The state of a search from some starts, when some levels were known before. -/
structure Searching (R : String → String → Prop) (known : Dictionary Nat) (starts : Set String)
    (s : Search) : Prop where
  /-- What was known stays, and every other level is a distance. -/
  known_of_some : ∀ {v k}, known.find? v = some k → s.levels.find? v = some k
  isLeast_of_some : ∀ {v k}, s.levels.find? v = some k → known.find? v = none →
    IsLeast (wayLengths R starts v) k
  hasLevel_start : ∀ v ∈ starts, s.HasLevel v
  /-- Only for the nodes in the queue the links are still to be followed. -/
  hasLevel_step : ∀ {a b}, s.HasLevel a → a ∉ s.queue → R a b → s.HasLevel b
  queue_new : ∀ v ∈ s.queue, s.HasLevel v ∧ known.find? v = none
  queue_ordered : ∃ d near far, s.queue = near ++ far ∧
    (∀ v ∈ near, IsLeast (wayLengths R starts v) d) ∧
    ∀ v ∈ far, IsLeast (wayLengths R starts v) (d + 1)

theorem Searching.known_eq_none {s : Search} (h : Searching R known starts s) {v : String}
    (hv : ¬ s.HasLevel v) : known.find? v = none := by
  rw [Search.not_hasLevel_iff] at hv
  rw [Option.eq_none_iff_forall_ne_some]
  intro k hk
  rw [h.known_of_some hk] at hv
  exact nomatch hv

/-- On a way to a node without a level some node waits in the queue. -/
theorem Searching.exists_mem_queue {s : Search} (h : Searching R known starts s) {n : Nat}
    {v : String} (hn : n ∈ wayLengths R starts v) (hv : ¬ s.HasLevel v) :
    ∃ u ∈ s.queue, ∃ m < n, m ∈ wayLengths R starts u := by
  induction n generalizing v with
  | zero => exact absurd (h.hasLevel_start v (zero_mem_wayLengths_iff.mp hn)) hv
  | succ n ih =>
      obtain ⟨w, hw, hwv⟩ := succ_mem_wayLengths_iff.mp hn
      by_cases hlevel : s.HasLevel w
      · have hwaits : w ∈ s.queue := by
          by_contra hfollowed
          exact hv (h.hasLevel_step hlevel hfollowed hwv)
        exact ⟨w, hwaits, n, Nat.lt_succ_self n, hw⟩
      · obtain ⟨u, hu, m, hm, hway⟩ := ih hw hlevel
        exact ⟨u, hu, m, Nat.lt_succ_of_lt hm, hway⟩

/-- The first node of the queue is a nearest one in it. -/
theorem Searching.first {s : Search} (h : Searching R known starts s) {v : String}
    {rest : List String} (hqueue : s.queue = v :: rest) :
    ∃ d near far, rest = near ++ far ∧ IsLeast (wayLengths R starts v) d ∧
      (∀ u ∈ near, IsLeast (wayLengths R starts u) d) ∧
      ∀ u ∈ far, IsLeast (wayLengths R starts u) (d + 1) := by
  obtain ⟨d, near, far, hsplit, hnear, hfar⟩ := h.queue_ordered
  rw [hqueue] at hsplit
  cases near with
  | cons u near =>
      obtain ⟨rfl, rfl⟩ := List.cons.inj hsplit
      obtain ⟨hv, hnear⟩ := List.forall_mem_cons.mp hnear
      exact ⟨d, near, far, rfl, hv, hnear, hfar⟩
  | nil =>
      -- all nearer ones are done, so those that remain are at one distance
      rw [List.nil_append] at hsplit
      rw [← hsplit] at hfar
      obtain ⟨hv, hrest⟩ := List.forall_mem_cons.mp hfar
      exact ⟨d + 1, rest, [], (List.append_nil rest).symm, hv, hrest, nofun⟩

theorem Searching.find?_of_mem_queue {s : Search} (h : Searching R known starts s) {v : String}
    (hv : v ∈ s.queue) {d : Nat} (hd : IsLeast (wayLengths R starts v) d) :
    s.levels.find? v = some d := by
  obtain ⟨hlevel, hnew⟩ := h.queue_new v hv
  obtain ⟨k, hk⟩ := Search.hasLevel_iff.mp hlevel
  rw [hk, (h.isLeast_of_some hk hnew).unique hd]

/-- A node without a level to which a link of the first node leads is one step farther away. -/
theorem Searching.isLeast_of_step {s : Search} (h : Searching R known starts s) {v w : String}
    {rest : List String} {d : Nat} (hqueue : s.queue = v :: rest)
    (hv : IsLeast (wayLengths R starts v) d) (hvw : R v w) (hw : ¬ s.HasLevel w) :
    IsLeast (wayLengths R starts w) (d + 1) := by
  refine isLeast_succ_iff.mpr ⟨succ_mem_wayLengths_iff.mpr ⟨v, hv.1, hvw⟩, ?_⟩
  intro m hm hway
  -- a way that is shorter leads through a node in the queue that is nearer than the first one
  obtain ⟨u, hu, k, hk, hlength⟩ := h.exists_mem_queue hway hw
  have hle : d ≤ k := by
    obtain ⟨d', near, far, rfl, hv', hnear, hfar⟩ := h.first hqueue
    obtain rfl := hv'.unique hv
    rw [hqueue, List.mem_cons, List.mem_append] at hu
    rcases hu with rfl | hu | hu
    · exact hv.2 hlength
    · exact (hnear u hu).2 hlength
    · exact Nat.le_of_succ_le ((hfar u hu).2 hlength)
  omega

variable (hlinks : ∀ a b, (a, b) ∈ links ↔ R a b) (hends : ∀ a b, R a b → a ∈ ids ∧ b ∈ ids)

include hlinks hends

theorem mem_targets_iff {a b : String} :
    b ∈ ((links.filter (·.1 == a)).map (·.2)).filter ids.contains ↔ R a b := by
  rw [← hlinks, List.mem_filter, List.mem_map, List.contains_iff_mem]
  constructor
  · rintro ⟨⟨⟨source, _⟩, hl, rfl⟩, -⟩
    obtain ⟨hlink, hsource⟩ := List.mem_filter.mp hl
    obtain rfl : source = a := eq_of_beq hsource
    exact hlink
  · intro hlink
    refine ⟨⟨(a, b), List.mem_filter.mpr ⟨hlink, beq_self_eq_true a⟩, rfl⟩, ?_⟩
    exact (hends a b ((hlinks a b).mp hlink)).2

/-- To follow the links of a node puts the nodes without a level to which they lead at the end of the
queue. -/
theorem exists_follow {s : Search} {v : String} {d : Nat} (hv : s.levels.find? v = some d) :
    ∃ fresh, (s.follow ids links v).queue = s.queue ++ fresh ∧
      (∀ w, w ∈ fresh ↔ R v w ∧ ¬ s.HasLevel w) ∧
      ∀ w, (s.follow ids links v).levels.find? w =
        if w ∈ fresh then some (d + 1) else s.levels.find? w := by
  have hfollow := Search.exists_foldl_visit (d + 1)
    (((links.filter (·.1 == v)).map (·.2)).filter ids.contains) s
  simp only [mem_targets_iff hlinks hends] at hfollow
  rw [Search.follow, hv]
  exact hfollow

/-- To take the first node from the queue and to follow its links keeps the invariant. -/
theorem Searching.follow {s : Search} (h : Searching R known starts s) {v : String}
    {rest : List String} (hqueue : s.queue = v :: rest) :
    Searching R known starts ({ s with queue := rest }.follow ids links v) := by
  obtain ⟨d, near, far, hrest, hv, hnear, hfar⟩ := h.first hqueue
  have hlevel : s.levels.find? v = some d :=
    h.find?_of_mem_queue (hqueue ▸ List.mem_cons_self) hv
  obtain ⟨fresh, hqueue', hfresh, hlevels⟩ :=
    exists_follow (s := { s with queue := rest }) hlinks hends hlevel
  generalize { s with queue := rest }.follow ids links v = s' at hqueue' hlevels ⊢
  change ∀ w, w ∈ fresh ↔ R v w ∧ ¬ s.HasLevel w at hfresh
  have hhas : ∀ w, s'.HasLevel w ↔ w ∈ fresh ∨ s.HasLevel w := by
    intro w
    rw [Search.hasLevel_iff, Search.hasLevel_iff, hlevels]
    by_cases hw : w ∈ fresh <;> simp [hw]
  have hunknown : ∀ w ∈ fresh, known.find? w = none :=
    fun w hw => h.known_eq_none ((hfresh w).mp hw).2
  have hdistance : ∀ w ∈ fresh, IsLeast (wayLengths R starts w) (d + 1) := by
    intro w hw
    obtain ⟨hvw, hnew⟩ := (hfresh w).mp hw
    exact h.isLeast_of_step hqueue hv hvw hnew
  constructor
  case known_of_some =>
    intro w k hk
    have hw : w ∉ fresh := fun hw => nomatch (hunknown w hw).symm.trans hk
    rw [hlevels, if_neg hw]
    exact h.known_of_some hk
  case isLeast_of_some =>
    intro w k hk hnone
    rw [hlevels] at hk
    split at hk
    · next hw =>
        obtain rfl := Option.some.inj hk
        exact hdistance w hw
    · exact h.isLeast_of_some hk hnone
  case hasLevel_start => exact fun w hw => (hhas w).mpr (.inr (h.hasLevel_start w hw))
  case hasLevel_step =>
    intro a b ha hdone hab
    rw [hqueue', List.mem_append, not_or] at hdone
    have ha : s.HasLevel a := ((hhas a).mp ha).resolve_left hdone.2
    rw [hhas, hfresh]
    by_cases hb : s.HasLevel b
    · exact .inr hb
    · -- only the first node was taken from the queue
      have hwaits : a ∈ s.queue := by
        by_contra hfollowed
        exact hb (h.hasLevel_step ha hfollowed hab)
      rw [hqueue] at hwaits
      rcases List.mem_cons.mp hwaits with rfl | hwaits
      · exact .inl ⟨hab, hb⟩
      · exact absurd hwaits hdone.1
  case queue_new =>
    intro w hw
    rw [hqueue'] at hw
    rcases List.mem_append.mp hw with hw | hw
    · obtain ⟨hlevel, hnew⟩ := h.queue_new w (hqueue ▸ List.mem_cons_of_mem v hw)
      exact ⟨(hhas w).mpr (.inr hlevel), hnew⟩
    · exact ⟨(hhas w).mpr (.inl hw), hunknown w hw⟩
  case queue_ordered =>
    refine ⟨d, near, far ++ fresh, ?_, hnear, fun w hw => ?_⟩
    · rw [hqueue', hrest, List.append_assoc]
    · rcases List.mem_append.mp hw with hw | hw
      · exact hfar w hw
      · exact hdistance w hw

/-- When the queue is empty, what can be reached has a level, which is its distance unless it was
known before. -/
theorem Searching.find?_run_iff {s : Search} (h : Searching R known starts s) (v : String)
    (k : Nat) : (s.run ids links).find? v = some k ↔
      known.find? v = some k ∨
        known.find? v = none ∧ IsLeast (wayLengths R starts v) k := by
  induction s using Search.run.induct ids links with
  | case1 s hempty =>
      rw [Search.run, hempty]
      have hall : ∀ n v, n ∈ wayLengths R starts v → s.HasLevel v := by
        intro n v hway
        by_contra hv
        obtain ⟨u, hu, -⟩ := h.exists_mem_queue hway hv
        rw [hempty] at hu
        exact nomatch hu
      constructor
      · intro hk
        cases hknown : known.find? v with
        | none => exact .inr ⟨rfl, h.isLeast_of_some hk hknown⟩
        | some k' =>
            rw [h.known_of_some hknown] at hk
            exact .inl hk
      · rintro (hk | ⟨hnone, hleast⟩)
        · exact h.known_of_some hk
        · obtain ⟨k', hk'⟩ := Search.hasLevel_iff.mp (hall k v hleast.1)
          rw [hk', (h.isLeast_of_some hk' hnone).unique hleast]
  | case2 s v' rest hqueue ih =>
      rw [Search.run, hqueue]
      exact ih (h.follow hlinks hends hqueue)

omit hlinks hends in
/-- When the starts have been visited and no step leads away from what was known before, the search
is under way. -/
theorem searching_starts {fresh : List String}
    (hclosed : ∀ a b, R a b → known.contains a = true → known.contains b = true)
    (hfresh : ∀ id ∈ fresh, known.find? id = none) :
    Searching R known {id | id ∈ fresh}
      (fresh.foldl (Search.visit 0) { levels := known, queue := [] }) := by
  obtain ⟨new, hqueue, hnew, hlevels⟩ :=
    Search.exists_foldl_visit 0 fresh { levels := known, queue := [] }
  generalize fresh.foldl (Search.visit 0) { levels := known, queue := [] } = s at hqueue hlevels ⊢
  have hnew : ∀ v, v ∈ new ↔ v ∈ fresh := by
    intro v
    rw [hnew, Search.not_hasLevel_iff]
    exact and_iff_left_of_imp (hfresh v)
  have hhas : ∀ v, s.HasLevel v ↔ v ∈ fresh ∨ known.contains v = true := by
    intro v
    rw [Search.HasLevel, Dictionary.contains, Dictionary.contains, hlevels, ← hnew]
    by_cases hv : v ∈ new <;> simp [hv]
  have hqueue : ∀ v, v ∈ s.queue ↔ v ∈ fresh := by
    intro v
    rw [hqueue, List.nil_append, hnew]
  constructor
  case known_of_some =>
    intro v k hk
    have hv : v ∉ new := fun hv =>
      Option.some_ne_none k (hk.symm.trans (hfresh v ((hnew v).mp hv)))
    rw [hlevels, if_neg hv]
    exact hk
  case isLeast_of_some =>
    intro v k hk hnone
    rw [hlevels] at hk
    split at hk
    · next hv =>
        obtain rfl := Option.some.inj hk
        exact isLeast_zero_iff.mpr ((hnew v).mp hv)
    · exact absurd (hk.symm.trans hnone) (Option.some_ne_none k)
  case hasLevel_start => exact fun v hv => (hhas v).mpr (.inl hv)
  case hasLevel_step =>
    intro a b ha hdone hab
    rw [hqueue] at hdone
    exact (hhas b).mpr (.inr (hclosed a b hab (((hhas a).mp ha).resolve_left hdone)))
  case queue_new =>
    intro v hv
    have hv := (hqueue v).mp hv
    exact ⟨(hhas v).mpr (.inl hv), hfresh v hv⟩
  case queue_ordered =>
    refine ⟨0, s.queue, [], (List.append_nil _).symm, fun v hv => ?_, List.forall_mem_nil _⟩
    exact isLeast_zero_iff.mpr ((hqueue v).mp hv)

theorem find?_traverse_iff {fresh : List String}
    (hclosed : ∀ a b, R a b → known.contains a = true → known.contains b = true)
    (hfresh : ∀ id ∈ fresh, known.find? id = none) (v : String) (k : Nat) :
    (traverse ids links known fresh).find? v = some k ↔
      known.find? v = some k ∨
        known.find? v = none ∧ IsLeast (wayLengths R {id | id ∈ fresh} v) k :=
  (searching_starts hclosed hfresh).find?_run_iff hlinks hends v k

end

/-! ## Starts -/

section

variable {links : List (String × String)} {R : String → String → Prop}
  (hlinks : ∀ a b, (a, b) ∈ links ↔ R a b) {ids : List String}
  (hends : ∀ a b, R a b → a ∈ ids ∧ b ∈ ids)

/-- The levels that are known between two starts: the nodes that are reached have one, and no step
leads away from them. -/
structure Known (R : String → String → Prop) (ids : List String) (reached : Set String)
    (known : Dictionary Nat) : Prop where
  contains_iff : ∀ v, known.contains v = true ↔ v ∈ ids ∧ v ∈ reached
  closed : ∀ a b, R a b → a ∈ reached → b ∈ reached

theorem Known.find?_eq_none {reached : Set String} {known : Dictionary Nat}
    (h : Known R ids reached known) {v : String} (hv : v ∉ reached) : known.find? v = none := by
  rw [← Option.not_isSome_iff_eq_none]
  exact fun hsome => hv ((h.contains_iff v).mp hsome).2

include hlinks hends

/-- A start adds the distances from it to the levels of the nodes that were not reached before. -/
theorem Known.find?_traverse_iff {reached : Set String} {known : Dictionary Nat}
    (h : Known R ids reached known) {id : String} (hid : id ∈ ids) (hfresh : id ∉ reached)
    (v : String) (k : Nat) :
    (traverse ids links known [id]).find? v = some k ↔
      known.find? v = some k ∨ v ∉ reached ∧ IsLeast (wayLengths R {id} v) k := by
  have hclosed : ∀ a b, R a b → known.contains a = true → known.contains b = true := by
    intro a b hab ha
    rw [h.contains_iff] at ha ⊢
    exact ⟨(hends a b hab).2, h.closed a b hab ha.2⟩
  have hstart : ∀ i ∈ [id], known.find? i = none :=
    List.forall_mem_singleton.mpr (h.find?_eq_none hfresh)
  have hsingleton : {i | i ∈ [id]} = ({id} : Set String) := by
    ext i
    simp
  rw [Levels.find?_traverse_iff hlinks hends hclosed hstart, hsingleton]
  refine or_congr_right (and_congr_left fun hleast => ?_)
  obtain ⟨i, rfl, hway⟩ := hleast.1
  have hv := Reaches.mem_ids hends ⟨k, hway⟩ hid
  rw [← Option.not_isSome_iff_eq_none, ← Dictionary.contains, h.contains_iff, not_and]
  exact ⟨fun hnew => hnew hv, fun hnew _ => hnew⟩

theorem Known.traverse {reached : Set String} {known : Dictionary Nat}
    (h : Known R ids reached known) {id : String} (hid : id ∈ ids) (hfresh : id ∉ reached) :
    Known R ids (reached ∪ reachedFrom R {id}) (traverse ids links known [id]) := by
  constructor
  · intro v
    rw [Dictionary.contains, Option.isSome_iff_exists]
    simp only [h.find?_traverse_iff hlinks hends hid hfresh]
    rw [exists_or, ← Option.isSome_iff_exists, ← Dictionary.contains, h.contains_iff,
      exists_and_left, ← mem_reachedFrom_iff_exists_isLeast, Set.mem_union]
    constructor
    · rintro (⟨hv, hreached⟩ | ⟨-, hreached⟩)
      · exact ⟨hv, .inl hreached⟩
      · have hreaches := mem_reachedFrom_singleton.mp hreached
        exact ⟨hreaches.mem_ids hends hid, .inr hreached⟩
    · rintro ⟨hv, hreached⟩
      tauto
  · rintro a b hab (ha | ha)
    · exact .inl (h.closed a b hab ha)
    · exact .inr (reachedFrom_closed ha hab)

open scoped Classical in
/-- What is not reached at the outset gets its distance from the first start that reaches it. -/
theorem Known.find?_foldl_iff {reached : Set String} {known : Dictionary Nat}
    (h : Known R ids reached known) {rest : List String} (hrest : ∀ id ∈ rest, id ∈ ids)
    (v : String) (k : Nat) :
    (rest.foldl (fun levels id => if levels.contains id then levels
        else Levels.traverse ids links levels [id]) known).find? v = some k ↔
      known.find? v = some k ∨ v ∉ reached ∧
        ∃ s, (laterStarts R reached rest).find? (Reaches R · v) = some s ∧
          IsLeast (wayLengths R {s} v) k := by
  induction rest generalizing reached known with
  | nil => simp [laterStarts]
  | cons id rest ih =>
      obtain ⟨hid, hrest⟩ := List.forall_mem_cons.mp hrest
      rw [List.foldl_cons, laterStarts]
      by_cases hreached : id ∈ reached
      · rw [if_pos ((h.contains_iff id).mpr ⟨hid, hreached⟩), if_pos hreached]
        exact ih h hrest
      · have hunknown : ¬ known.contains id = true :=
          fun hsome => hreached ((h.contains_iff id).mp hsome).2
        rw [if_neg hunknown, if_neg hreached, ih (h.traverse hlinks hends hid hreached) hrest,
          h.find?_traverse_iff hlinks hends hid hreached]
        by_cases hreaches : Reaches R id v
        · rw [List.find?_cons_of_pos (by simpa using hreaches)]
          have hlater : v ∈ reached ∪ reachedFrom R {id} :=
            .inr (mem_reachedFrom_singleton.mpr hreaches)
          simp [hlater]
        · have hfar : v ∉ reachedFrom R {id} := mt mem_reachedFrom_singleton.mp hreaches
          have hnever : ¬ IsLeast (wayLengths R {id} v) k :=
            fun hleast => hfar (mem_reachedFrom_iff_exists_isLeast.mpr ⟨k, hleast⟩)
          rw [List.find?_cons_of_neg (by simpa using hreaches)]
          simp [hnever, hfar]

end

theorem laterStarts_subset (R : String → String → Prop) (reached : Set String)
    (ids : List String) : laterStarts R reached ids ⊆ ids := by
  induction ids generalizing reached with
  | nil => exact List.Subset.refl []
  | cons id rest ih =>
      rw [laterStarts]
      split
      · exact List.subset_cons_of_subset id (ih _)
      · exact List.cons_subset_cons id (ih _)

theorem exists_mem_laterStarts {R : String → String → Prop} {reached : Set String}
    {ids : List String} {v : String} (hv : v ∈ ids) (hreached : v ∉ reached) :
    ∃ s ∈ laterStarts R reached ids, Reaches R s v := by
  induction ids generalizing reached with
  | nil => exact absurd hv List.not_mem_nil
  | cons id rest ih =>
      rw [laterStarts]
      by_cases hid : id ∈ reached
      · rw [if_pos hid]
        have hne : v ≠ id := fun heq => hreached (heq ▸ hid)
        exact ih (List.mem_of_ne_of_mem hne hv) hreached
      · rw [if_neg hid]
        by_cases hfirst : Reaches R id v
        · exact ⟨id, List.mem_cons_self, hfirst⟩
        · have hne : v ≠ id := fun heq => hfirst (heq ▸ .refl v)
          have hunreached : v ∉ reached ∪ reachedFrom R {id} := by
            rintro (hmem | hmem)
            · exact hreached hmem
            · exact hfirst (mem_reachedFrom_singleton.mp hmem)
          obtain ⟨s, hs, hreaches⟩ := ih (List.mem_of_ne_of_mem hne hv) hunreached
          exact ⟨s, List.mem_cons_of_mem id hs, hreaches⟩

end Levels

namespace Graph

open Levels

/-- An edge leads from one node to another; edges that lack one of them do not count. -/
def Leads (g : Graph) (a b : String) : Prop :=
  (∃ e ∈ g.edges, e.source = a ∧ e.target = b) ∧ a ∈ g.ids ∧ b ∈ g.ids

def roots (g : Graph) : Set String :=
  {id | id ∈ g.ids ∧ ∀ a, ¬ g.Leads a id}

def knownLinks (g : Graph) : List (String × String) :=
  (g.edges.map fun e => (e.source, e.target)).filter fun l =>
    g.ids.contains l.1 && g.ids.contains l.2

def rootIds (g : Graph) : List String :=
  g.ids.filter fun id => !g.knownLinks.any (·.2 == id)

theorem levels_eq (g : Graph) : g.levels =
    g.ids.foldl
      (fun levels id => if levels.contains id then levels
        else traverse g.ids g.knownLinks levels [id])
      (traverse g.ids g.knownLinks {} g.rootIds) :=
  rfl

theorem mem_knownLinks_iff (g : Graph) (a b : String) :
    (a, b) ∈ g.knownLinks ↔ g.Leads a b := by
  simp [knownLinks, Leads]

theorem any_knownLinks_iff (g : Graph) (id : String) :
    g.knownLinks.any (·.2 == id) = true ↔ ∃ a, g.Leads a id := by
  simp [← mem_knownLinks_iff]

theorem mem_rootIds_iff (g : Graph) (id : String) : id ∈ g.rootIds ↔ id ∈ g.roots := by
  rw [rootIds, List.mem_filter, Bool.not_eq_true', ← Bool.not_eq_true, any_knownLinks_iff,
    not_exists]
  rfl

theorem find?_traverse_rootIds_iff (g : Graph) (v : String) (k : Nat) :
    (traverse g.ids g.knownLinks {} g.rootIds).find? v = some k ↔
      IsLeast (wayLengths g.Leads g.roots v) k := by
  have hroots : {id | id ∈ g.rootIds} = g.roots := Set.ext g.mem_rootIds_iff
  have hnone (v : String) : ({} : Dictionary Nat).find? v = none := rfl
  have hclosed : ∀ a b, g.Leads a b → ({} : Dictionary Nat).contains a = true →
      ({} : Dictionary Nat).contains b = true := fun _ _ _ ha => ha
  rw [find?_traverse_iff g.mem_knownLinks_iff (fun _ _ hab => hab.2) hclosed
    (fun id _ => hnone id), hroots, hnone]
  simp

theorem mem_ids_of_mem_reachedFrom_roots {g : Graph} {v : String}
    (h : v ∈ reachedFrom g.Leads g.roots) : v ∈ g.ids := by
  obtain ⟨root, hroot, hreaches⟩ := h
  exact hreaches.mem_ids (fun _ _ hab => hab.2) hroot.1

theorem known_traverse_rootIds (g : Graph) :
    Known g.Leads g.ids (reachedFrom g.Leads g.roots)
      (traverse g.ids g.knownLinks {} g.rootIds) where
  contains_iff := by
    intro v
    rw [Dictionary.contains, Option.isSome_iff_exists]
    simp only [find?_traverse_rootIds_iff]
    rw [← mem_reachedFrom_iff_exists_isLeast]
    exact (and_iff_right_of_imp mem_ids_of_mem_reachedFrom_roots).symm
  closed := fun _ _ hab ha => reachedFrom_closed ha hab

/-- The nodes from which levels are counted anew. -/
noncomputable def laterStarts (g : Graph) : List String :=
  Levels.laterStarts g.Leads (reachedFrom g.Leads g.roots) g.ids

open scoped Classical in
/-- The first of the later starts that reaches a node. -/
noncomputable def startOf? (g : Graph) (v : String) : Option String :=
  g.laterStarts.find? (Reaches g.Leads · v)

theorem find?_levels_iff (g : Graph) (v : String) (k : Nat) :
    g.levels.find? v = some k ↔
      IsLeast (wayLengths g.Leads g.roots v) k ∨
        v ∉ reachedFrom g.Leads g.roots ∧
          ∃ s, g.startOf? v = some s ∧ IsLeast (wayLengths g.Leads {s} v) k := by
  rw [levels_eq, g.known_traverse_rootIds.find?_foldl_iff g.mem_knownLinks_iff
    (fun a b hab => hab.2) (fun _ hid => hid), find?_traverse_rootIds_iff]
  rfl

theorem reaches_of_startOf? {g : Graph} {v s : String} (h : g.startOf? v = some s) :
    s ∈ g.laterStarts ∧ Reaches g.Leads s v := by
  unfold startOf? at h
  exact ⟨List.mem_of_find?_eq_some h, by simpa using List.find?_some h⟩

theorem exists_startOf? {g : Graph} {v : String} (hv : v ∈ g.ids)
    (hreached : v ∉ reachedFrom g.Leads g.roots) : ∃ s, g.startOf? v = some s := by
  obtain ⟨t, ht, hreaches⟩ := exists_mem_laterStarts hv hreached
  unfold startOf?
  rw [← Option.isSome_iff_exists, List.find?_isSome]
  exact ⟨t, ht, by simpa using hreaches⟩

theorem exists_find?_levels_iff (g : Graph) (v : String) :
    (∃ k, g.levels.find? v = some k) ↔ v ∈ g.ids := by
  simp only [find?_levels_iff, exists_or, exists_and_left]
  rw [← mem_reachedFrom_iff_exists_isLeast]
  constructor
  · rintro (hreached | ⟨-, k, s, hs, -⟩)
    · exact mem_ids_of_mem_reachedFrom_roots hreached
    · obtain ⟨hstart, hreaches⟩ := reaches_of_startOf? hs
      exact hreaches.mem_ids (fun _ _ hab => hab.2) (laterStarts_subset _ _ _ hstart)
  · intro hv
    by_cases hreached : v ∈ reachedFrom g.Leads g.roots
    · exact .inl hreached
    · obtain ⟨s, hs⟩ := exists_startOf? hv hreached
      have hreaches := mem_reachedFrom_singleton.mpr (reaches_of_startOf? hs).2
      obtain ⟨k, hleast⟩ := mem_reachedFrom_iff_exists_isLeast.mp hreaches
      exact .inr ⟨hreached, k, s, hs, hleast⟩

theorem levels_congr {g g' : Graph} (hids : g'.ids = g.ids)
    (hleads : ∀ a b, g'.Leads a b ↔ g.Leads a b) : g'.levels = g.levels := by
  have hleads : g'.Leads = g.Leads := by
    funext a b
    exact propext (hleads a b)
  have hroots : g'.roots = g.roots := by rw [roots, roots, hids, hleads]
  refine Dictionary.ext_find? fun v => Option.ext fun k => ?_
  rw [find?_levels_iff, find?_levels_iff, startOf?, startOf?, laterStarts, laterStarts, hids,
    hleads, hroots]

/-- The levels of a graph are those of breadth-first search. Every node gets a level: one that can
be reached from a root gets the length of a shortest way from the roots, any other that of a
shortest way from the first later start that reaches it. So the levels depend on the order of the
nodes and on what leads to what, not on the edges themselves. -/
theorem levels_breadth_first (g : Graph) :
    (∀ v, (∃ k, g.levels.find? v = some k) ↔ v ∈ g.ids) ∧
      (∀ v k, g.levels.find? v = some k →
        (v ∈ reachedFrom g.Leads g.roots → IsLeast (wayLengths g.Leads g.roots v) k) ∧
        (v ∉ reachedFrom g.Leads g.roots →
          ∃ s, g.startOf? v = some s ∧ IsLeast (wayLengths g.Leads {s} v) k)) ∧
      ∀ g' : Graph, g'.ids = g.ids → (∀ a b, g'.Leads a b ↔ g.Leads a b) →
        g'.levels = g.levels := by
  refine ⟨g.exists_find?_levels_iff, ?_, fun _ => levels_congr⟩
  intro v k hk
  rcases (g.find?_levels_iff v k).mp hk with hleast | ⟨hreached, hstart⟩
  · have hreached := mem_reachedFrom_iff_exists_isLeast.mpr ⟨k, hleast⟩
    exact ⟨fun _ => hleast, fun hv => absurd hreached hv⟩
  · exact ⟨fun hv => absurd hv hreached, fun _ => hstart⟩

/-- A node and its successor, two nodes that point to each other and one that points to itself. -/
def tangled : Graph where
  nodes := ["x", "y", "a", "b", "z"].map fun id => ⟨id, id, "server", "server", [], {}⟩
  edges := [("a", "b"), ("x", "y"), ("y", "x"), ("z", "z")].map fun l =>
    .plain (l.1 ++ l.2) l.1 l.2 "uses"

/-- The same, with its edges in another order, one of them twice and one from nowhere. -/
def retangled : Graph where
  nodes := tangled.nodes
  edges := [("y", "x"), ("z", "z"), ("ghost", "x"), ("a", "b"), ("x", "y"), ("a", "b")].map fun l =>
    .plain (l.1 ++ l.2) l.1 l.2 "uses"

theorem levels_breadth_first_tangled :
    retangled.ids = tangled.ids ∧ (∀ a b, retangled.Leads a b ↔ tangled.Leads a b) ∧
      retangled.levels = tangled.levels ∧
      tangled.levels.find? "b" = some 1 ∧ "b" ∈ reachedFrom tangled.Leads tangled.roots ∧
      IsLeast (wayLengths tangled.Leads tangled.roots "b") 1 ∧
      tangled.levels.find? "y" = some 1 ∧ "y" ∉ reachedFrom tangled.Leads tangled.roots ∧
      ∃ s, tangled.startOf? "y" = some s ∧ IsLeast (wayLengths tangled.Leads {s} "y") 1 := by
  have hlinks : tangled.knownLinks = [("a", "b"), ("x", "y"), ("y", "x"), ("z", "z")] := by decide
  have hleads : ∀ a b, retangled.Leads a b ↔ tangled.Leads a b := by
    have hlinks' : retangled.knownLinks =
        [("y", "x"), ("z", "z"), ("a", "b"), ("x", "y"), ("a", "b")] := by decide
    intro a b
    rw [← mem_knownLinks_iff, ← mem_knownLinks_iff, hlinks, hlinks']
    simp only [List.mem_cons, List.not_mem_nil]
    tauto
  have hroots : ∀ id, id ∈ tangled.roots ↔ id = "a" := by
    have hrootIds : tangled.rootIds = ["a"] := by decide
    intro id
    rw [← mem_rootIds_iff, hrootIds, List.mem_singleton]
  have hb : "b" ∈ reachedFrom tangled.Leads tangled.roots := by
    have hab : tangled.Leads "a" "b" := by
      rw [← mem_knownLinks_iff, hlinks]
      exact List.mem_cons_self
    exact ⟨"a", (hroots "a").mpr rfl, 1, (Way.here "a").step hab⟩
  have hy : "y" ∉ reachedFrom tangled.Leads tangled.roots := by
    have hclosed : ∀ a b, tangled.Leads a b → a ∈ ({"a", "b"} : Set String) →
        b ∈ ({"a", "b"} : Set String) := by
      intro a b hab
      rw [← mem_knownLinks_iff, hlinks] at hab
      simp only [List.mem_cons, Prod.mk.injEq, List.not_mem_nil, or_false] at hab
      rcases hab with ⟨rfl, rfl⟩ | ⟨rfl, rfl⟩ | ⟨rfl, rfl⟩ | ⟨rfl, rfl⟩ <;> simp
    rintro ⟨r, hr, hreaches⟩
    have hmem := hreaches.mem_of_closed hclosed (by simp [(hroots r).mp hr])
    simp at hmem
  have hlevel : tangled.levels.find? "b" = some 1 ∧ tangled.levels.find? "y" = some 1 := by
    decide +kernel
  obtain ⟨-, hdistance, hcongr⟩ := levels_breadth_first tangled
  exact ⟨rfl, hleads, hcongr retangled rfl hleads, hlevel.1, hb, (hdistance "b" 1 hlevel.1).1 hb,
    hlevel.2, hy, (hdistance "y" 1 hlevel.2).2 hy⟩

end Graph

end AssetAtlas
