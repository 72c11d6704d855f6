import AssetAtlas.Criteria.Basic

/-!
Editing a list of criteria. What edits make of it can be followed on plain lists: an entry is
appended, cut out or replaced, an edit at an index without an entry changes nothing, and a blank
criterion is put back when the last one is cut out. The main statement is `edits_follow_list`.
-/

namespace AssetAtlas

/-- A change of one entry of a list of criteria. -/
inductive Edit where
  | add (c : Criterion)
  | remove (index : Nat)
  | update (index : Nat) (c : Criterion)

namespace Edit

def index? : Edit → Option Nat
  | .add _ => none
  | .remove index | .update index _ => some index

/-- A list of criteria, and a blank one in place of none. -/
def orBlank (l : List Criterion) : List Criterion :=
  if l.isEmpty then [.blank] else l

/-- A list of criteria after an edit, with what is in front of the index and what is behind it. -/
def onList (l : List Criterion) : Edit → List Criterion
  | .add c => l ++ [c]
  | .remove index =>
    if index < l.length then orBlank (l.take index ++ l.drop (index + 1)) else l
  | .update index c =>
    if index < l.length then l.take index ++ c :: l.drop (index + 1) else l

theorem orBlank_ne_nil (l : List Criterion) : orBlank l ≠ [] := by
  unfold orBlank
  split
  · exact List.cons_ne_nil _ _
  · next hne => exact mt List.isEmpty_iff.mpr hne

theorem onList_ne_nil {l : List Criterion} (h : l ≠ []) (e : Edit) : e.onList l ≠ [] := by
  cases e with
  | add c => simp [onList]
  | remove index =>
      rw [onList]
      split
      · exact orBlank_ne_nil _
      · exact h
  | update index c =>
      rw [onList]
      split
      · simp
      · exact h

end Edit

namespace Criteria

def edit (cs : Criteria) : Edit → Except Fault Criteria
  | .add c => .ok (cs.add c)
  | .remove index => cs.remove index
  | .update index c => cs.update index c

/-- The criteria after an edit; one that is refused leaves them as they are. -/
def afterEdit (cs : Criteria) (e : Edit) : Criteria :=
  match cs.edit e with
  | .ok next => next
  | .error _ => cs

def afterEdits (cs : Criteria) (edits : List Edit) : Criteria :=
  edits.foldl afterEdit cs

theorem list_ofList (l : List Criterion) : (ofList l).list = Edit.orBlank l := by
  cases l <;> rfl

/-!
## One edit

An edit is refused for its index, if there is no entry at it, and for nothing else. What it makes of
the criteria otherwise is what it makes of their list.
-/

theorem edit_cases (cs : Criteria) (e : Edit) :
    (∃ next, cs.edit e = .ok next ∧ next.list = e.onList cs.list ∧
        ∀ index ∈ e.index?, index < cs.size) ∨
      ∃ index ∈ e.index?, cs.size ≤ index ∧ cs.edit e = .error (cs.outOfRange index) ∧
        e.onList cs.list = cs.list := by
  cases e with
  | add c => exact .inl ⟨_, rfl, rfl, nofun⟩
  | remove index =>
      rw [edit, remove, Edit.onList]
      by_cases hindex : index < cs.size
      · refine .inl ⟨_, if_pos hindex, ?_, ?_⟩
        · -- only here can the list become empty
          rw [list_ofList, List.eraseIdx_eq_take_drop_succ]
          exact (if_pos hindex).symm
        · rintro _ ⟨⟩
          exact hindex
      · exact .inr ⟨index, rfl, Nat.le_of_not_lt hindex, if_neg hindex, if_neg hindex⟩
  | update index c =>
      rw [edit, update, Edit.onList]
      by_cases hindex : index < cs.size
      · refine .inl ⟨_, if_pos hindex, List.set_eq_take_append_cons_drop, ?_⟩
        rintro _ ⟨⟩
        exact hindex
      · exact .inr ⟨index, rfl, Nat.le_of_not_lt hindex, if_neg hindex, if_neg hindex⟩

theorem list_afterEdit (cs : Criteria) (e : Edit) : (cs.afterEdit e).list = e.onList cs.list := by
  obtain ⟨next, hedit, hlist, -⟩ | ⟨index, -, -, hedit, hlist⟩ := cs.edit_cases e
  · rw [afterEdit, hedit]
    exact hlist
  · rw [afterEdit, hedit]
    exact hlist.symm

theorem edit_eq_error_iff (cs : Criteria) (e : Edit) (fault : Fault) :
    cs.edit e = .error fault ↔
      ∃ index ∈ e.index?, cs.size ≤ index ∧ fault = cs.outOfRange index := by
  obtain ⟨next, hedit, -, hindex⟩ | ⟨index, hindex, hout, hedit, -⟩ := cs.edit_cases e
  · rw [hedit]
    refine iff_of_false nofun ?_
    rintro ⟨index, hmem, hout, -⟩
    exact Nat.not_le_of_lt (hindex index hmem) hout
  · rw [hedit]
    constructor
    · rintro ⟨⟩
      exact ⟨index, hindex, hout, rfl⟩
    · rintro ⟨index', hindex', -, rfl⟩
      rw [Option.mem_unique hindex hindex']

theorem remove_add (cs : Criteria) (c : Criterion) : (cs.add c).remove cs.size = .ok cs := by
  have hsize : cs.size < (cs.add c).size := by
    simp [size, add]
  have hlist : (cs.add c).list.eraseIdx cs.size = cs.list := by
    simp [add, size, List.eraseIdx_append_of_length_le]
  rw [remove, if_pos hsize, hlist, ofList_list]

/-! ## All edits -/

theorem list_afterEdits (cs : Criteria) (edits : List Edit) :
    (cs.afterEdits edits).list = edits.foldl Edit.onList cs.list := by
  induction edits generalizing cs with
  | nil => rfl
  | cons e edits ih =>
      rw [List.foldl_cons, ← list_afterEdit]
      exact ih (cs.afterEdit e)

theorem foldl_onList_ne_nil {l : List Criterion} (h : l ≠ []) (edits : List Edit) :
    edits.foldl Edit.onList l ≠ [] := by
  induction edits generalizing l with
  | nil => exact h
  | cons e edits ih => exact ih (e.onList_ne_nil h)

/-- Whatever the start and the edits, the criteria are those of the list that the edits make of the
start, and there is always one of them. An edit is refused exactly when it needs an entry at an index
that is not below their number, and an appended criterion can be taken away again. -/
theorem edits_follow_list (start : List Criterion) (edits : List Edit) :
    let cs := (ofList start).afterEdits edits
    cs.list = edits.foldl Edit.onList (Edit.orBlank start) ∧ cs.list ≠ [] ∧
      (∀ e next, cs.edit e = .ok next → next.list = e.onList cs.list) ∧
      (∀ e fault, cs.edit e = .error fault ↔
        ∃ index ∈ e.index?, cs.size ≤ index ∧ fault = cs.outOfRange index) ∧
      ∀ c, (cs.edit (.add c)).bind (·.edit (.remove cs.size)) = .ok cs := by
  intro cs
  have hlist : cs.list = edits.foldl Edit.onList (Edit.orBlank start) := by
    rw [← list_ofList]
    exact list_afterEdits _ edits
  refine ⟨hlist, ?_, ?_, cs.edit_eq_error_iff, cs.remove_add⟩
  · rw [hlist]
    exact foldl_onList_ne_nil (Edit.orBlank_ne_nil start) edits
  · intro e next hedit
    have hafter := cs.list_afterEdit e
    rwa [afterEdit, hedit] at hafter

end Criteria

end AssetAtlas
