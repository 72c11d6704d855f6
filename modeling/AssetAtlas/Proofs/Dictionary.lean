import AssetAtlas.Dictionary
import Mathlib.Algebra.Order.BigOperators.Group.List
import Mathlib.Algebra.Order.Group.Nat
import Mathlib.Algebra.Ring.Nat
import Mathlib.Data.List.Sort

/-!
Dictionaries as finite maps. An entry is there if and only if it is found, so what is found under
the keys determines the dictionary, and values under different keys come from different entries.
What comes first in a dictionary is what stands under the least key. A dictionary that is made of a
list holds the last entry with each key, and nothing else.
-/

namespace AssetAtlas

variable {α β : Type}

namespace Dictionary

theorem find?_eq_some_iff {d : Dictionary α} {key : String} {value : α} :
    d.find? key = some value ↔ (key, value) ∈ d.entries := by
  constructor
  · intro h
    obtain ⟨before, after, hentries, -⟩ := List.lookup_eq_some_iff.mp h
    rw [hentries]
    exact List.mem_append_right _ List.mem_cons_self
  · intro h
    rw [← insert_of_mem h, find?_insert, if_pos rfl]

theorem ext_find? {d e : Dictionary α} (h : ∀ key, d.find? key = e.find? key) : d = e := by
  have : Std.Irrefl fun a b : String × α => a.1 < b.1 := ⟨fun a => String.lt_irrefl a.1⟩
  have : Std.Antisymm fun a b : String × α => a.1 < b.1 :=
    ⟨fun _ _ hab hba => absurd hba (String.lt_asymm hab)⟩
  refine ext (d.ordered.eq_of_mem_iff e.ordered fun ⟨key, value⟩ => ?_)
  rw [← find?_eq_some_iff, h, find?_eq_some_iff]

theorem find?_eq_none_iff {d : Dictionary α} {key : String} :
    d.find? key = none ↔ key ∉ d.entries.map (·.1) := by
  rw [Option.eq_none_iff_forall_not_mem, List.mem_map]
  constructor
  · rintro h ⟨e, he, rfl⟩
    exact h e.2 (find?_eq_some_iff.mpr he)
  · intro h value hvalue
    exact h ⟨_, find?_eq_some_iff.mp hvalue, rfl⟩

/-! ## Going through the values -/

theorem mem_values_iff {d : Dictionary α} {value : α} :
    value ∈ d.values ↔ ∃ key, d.find? key = some value := by
  rw [values, List.mem_map]
  constructor
  · rintro ⟨e, he, rfl⟩
    exact ⟨e.1, find?_eq_some_iff.mpr he⟩
  · rintro ⟨key, hkey⟩
    exact ⟨(key, value), find?_eq_some_iff.mp hkey, rfl⟩

theorem findSome?_values_eq_none_iff {d : Dictionary α} {f : α → Option β} :
    d.values.findSome? f = none ↔ ∀ key, (d.find? key).bind f = none := by
  rw [List.findSome?_eq_none_iff]
  constructor
  · intro h key
    rw [Option.bind_eq_none_iff]
    exact fun value hkey => h value (mem_values_iff.mpr ⟨key, hkey⟩)
  · intro h value hvalue
    obtain ⟨key, hkey⟩ := mem_values_iff.mp hvalue
    exact Option.bind_eq_none_iff.mp (h key) value hkey

theorem exists_of_findSome?_values {d : Dictionary α} {f : α → Option β} {b : β}
    (h : d.values.findSome? f = some b) : ∃ key, (d.find? key).bind f = some b ∧
      ∀ other < key, (d.find? other).bind f = none := by
  rw [values, List.findSome?_map] at h
  obtain ⟨before, ⟨key, value⟩, after, hentries, hvalue, hbefore⟩ :=
    List.findSome?_eq_some_iff.mp h
  have hordered := d.ordered
  rw [hentries] at hordered
  obtain ⟨-, hafter, -⟩ := List.pairwise_append.mp hordered
  refine ⟨key, ?_, fun other hother => ?_⟩
  · have hfind : d.find? key = some value := by
      rw [find?_eq_some_iff, hentries]
      exact List.mem_append_right _ List.mem_cons_self
    rw [hfind]
    exact hvalue
  · rw [Option.bind_eq_none_iff]
    intro w hw
    rw [find?_eq_some_iff, hentries, List.mem_append, List.mem_cons] at hw
    rcases hw with hw | heq | hw
    · exact hbefore _ hw
    · exact absurd ((Prod.mk.inj heq).1 ▸ hother) (String.lt_irrefl key)
    · exact absurd hother (String.lt_asymm (List.rel_of_pairwise_cons hafter hw))

/-- Going through a dictionary, the first hit is the one under the least key. -/
theorem findSome?_values_eq_some_iff {d : Dictionary α} {f : α → Option β} {b : β} :
    d.values.findSome? f = some b ↔ ∃ key, (d.find? key).bind f = some b ∧
      ∀ other < key, (d.find? other).bind f = none := by
  refine ⟨exists_of_findSome?_values, ?_⟩
  rintro ⟨key, hkey, hleast⟩
  cases hfirst : d.values.findSome? f with
  | none => exact nomatch (findSome?_values_eq_none_iff.mp hfirst key).symm.trans hkey
  | some c =>
      obtain ⟨other, hother, hfirst⟩ := exists_of_findSome?_values hfirst
      have hle : ¬ other < key := fun hlt => nomatch (hleast other hlt).symm.trans hother
      have hge : ¬ key < other := fun hlt => nomatch (hfirst key hlt).symm.trans hkey
      obtain rfl : other = key := String.le_antisymm (String.not_lt.mp hge) (String.not_lt.mp hle)
      exact hother.symm.trans hkey

end Dictionary

theorem filter_key_eq {entries : List (String × α)}
    (h : entries.Pairwise fun a b => a.1 < b.1) (key : String) :
    entries.filter (·.1 = key) = ((entries.lookup key).map (key, ·)).toList := by
  induction entries with
  | nil => rfl
  | cons e entries ih =>
      obtain ⟨k, v⟩ := e
      obtain ⟨hk, hentries⟩ := List.pairwise_cons.mp h
      rw [lookup_cons_eq_ite]
      by_cases hkey : key = k
      · -- all further keys are greater
        subst hkey
        have hnone : entries.filter (·.1 = key) = [] := by
          refine List.filter_eq_nil_iff.mpr fun e he hsame => ?_
          have hlt : key < e.1 := hk e he
          rw [of_decide_eq_true hsame] at hlt
          exact String.lt_irrefl key hlt
        rw [if_pos rfl]
        simp [hnone]
      · rw [List.filter_cons_of_neg (by simpa using Ne.symm hkey), ih hentries, if_neg hkey]

/-! ## Making a dictionary of a list -/

theorem insertEntry_perm {key : String} {value : α} {entries : List (String × α)}
    (h : key ∉ entries.map (·.1)) :
    (insertEntry key value entries).Perm ((key, value) :: entries) := by
  induction entries with
  | nil => exact .refl _
  | cons e entries ih =>
      rw [List.map_cons, List.mem_cons, not_or] at h
      obtain ⟨hne, hrest⟩ := h
      unfold insertEntry
      rw [if_neg hne]
      split
      · exact .refl _
      · exact ((ih hrest).cons e).trans (.swap _ _ entries)

/-- The entries of a list whose key does not come again further on. -/
def lastEntries : List (String × α) → List (String × α)
  | [] => []
  | e :: rest => if e.1 ∈ rest.map (·.1) then lastEntries rest else e :: lastEntries rest

namespace Dictionary

theorem find?_foldl_insert (l : List (String × α)) (d : Dictionary α) (key : String) :
    (l.foldl (fun d e => d.insert e.1 e.2) d).find? key =
      ((ofList l).find? key).or (d.find? key) := by
  induction l generalizing d with
  | nil => rfl
  | cons e l ih =>
      rw [ofList, List.foldl_cons, List.foldl_cons, ih, ih, find?_insert, find?_insert,
        Option.or_assoc]
      split <;> rfl

@[simp]
theorem find?_ofList_nil (key : String) : (ofList ([] : List (String × α))).find? key = none :=
  rfl

theorem find?_ofList_cons (e : String × α) (l : List (String × α)) (key : String) :
    (ofList (e :: l)).find? key =
      ((ofList l).find? key).or (if key = e.1 then some e.2 else none) := by
  rw [ofList, List.foldl_cons, find?_foldl_insert, find?_insert]
  rfl

theorem find?_ofList_eq_none_iff {l : List (String × α)} {key : String} :
    (ofList l).find? key = none ↔ key ∉ l.map (·.1) := by
  induction l with
  | nil => exact iff_of_true rfl List.not_mem_nil
  | cons e l ih =>
      rw [find?_ofList_cons, Option.or_eq_none_iff, ih, List.map_cons, List.mem_cons, not_or,
        and_comm]
      simp

theorem ofList_cons_of_mem {e : String × α} {l : List (String × α)} (h : e.1 ∈ l.map (·.1)) :
    ofList (e :: l) = ofList l := by
  refine ext_find? fun key => ?_
  rw [find?_ofList_cons]
  split
  · next hkey =>
      subst hkey
      obtain ⟨value, hvalue⟩ := Option.ne_none_iff_exists'.mp
        (mt find?_ofList_eq_none_iff.mp (not_not_intro h))
      rw [hvalue, Option.some_or]
  · exact Option.or_none

theorem ofList_cons_of_not_mem {e : String × α} {l : List (String × α)}
    (h : e.1 ∉ l.map (·.1)) : ofList (e :: l) = (ofList l).insert e.1 e.2 := by
  refine ext_find? fun key => ?_
  rw [find?_ofList_cons, find?_insert]
  split
  · next hkey =>
      subst hkey
      rw [find?_ofList_eq_none_iff.mpr h, Option.none_or]
  · exact Option.or_none

theorem nodup_keys_entries (d : Dictionary α) : (d.entries.map (·.1)).Nodup :=
  List.pairwise_map.mpr (d.ordered.imp String.ne_of_lt)

theorem find?_ofList_of_nodup {l : List (String × α)} (h : (l.map (·.1)).Nodup) (key : String) :
    (ofList l).find? key = l.lookup key := by
  induction l with
  | nil => rfl
  | cons e l ih =>
      obtain ⟨hnew, hl⟩ := List.nodup_cons.mp h
      rw [find?_ofList_cons, lookup_cons_eq_ite]
      split
      · next hkey =>
          subst hkey
          rw [find?_ofList_eq_none_iff.mpr hnew, Option.none_or]
      · rw [ih hl, Option.or_none]

theorem ofList_entries (d : Dictionary α) : ofList d.entries = d :=
  ext_find? fun key => find?_ofList_of_nodup d.nodup_keys_entries key

theorem find?_ofList_append (l l' : List (String × α)) (key : String) :
    (ofList (l ++ l')).find? key = ((ofList l').find? key).or ((ofList l).find? key) := by
  rw [ofList, List.foldl_append, find?_foldl_insert]
  rfl

theorem entries_insert_perm {d : Dictionary α} {key : String} (h : d.find? key = none) (value : α) :
    (d.insert key value).entries.Perm ((key, value) :: d.entries) :=
  insertEntry_perm (find?_eq_none_iff.mp h)

theorem entries_ofList_perm (l : List (String × α)) : (ofList l).entries.Perm (lastEntries l) := by
  induction l with
  | nil => exact .refl _
  | cons e l ih =>
      rw [lastEntries]
      split
      · next hagain =>
          rw [ofList_cons_of_mem hagain]
          exact ih
      · next hnew =>
          rw [ofList_cons_of_not_mem hnew]
          exact (entries_insert_perm (find?_ofList_eq_none_iff.mpr hnew) e.2).trans (ih.cons e)

end Dictionary

/-! ## Sums -/

/-- Nothing is missing from the sum over the last entries if those that come again add nothing. -/
theorem sum_lastEntries {f : String × α → Nat} {l : List (String × α)}
    (h : l.Pairwise fun a b => a.1 = b.1 → f a = 0) :
    ((lastEntries l).map f).sum = (l.map f).sum := by
  induction l with
  | nil => rfl
  | cons e l ih =>
      obtain ⟨he, hl⟩ := List.pairwise_cons.mp h
      rw [lastEntries]
      split
      · next hagain =>
          obtain ⟨other, hother, hkey⟩ := List.mem_map.mp hagain
          rw [ih hl, List.map_cons, List.sum_cons, he other hother hkey.symm, Nat.zero_add]
      · rw [List.map_cons, List.map_cons, List.sum_cons, List.sum_cons, ih hl]

theorem sum_map_ite_le {keys : List String} (h : keys.Nodup) (key : String) (w : Nat) :
    (keys.map fun k => if k = key then w else 0).sum ≤ w := by
  induction keys with
  | nil => exact Nat.zero_le w
  | cons first keys ih =>
      obtain ⟨hfirst, hkeys⟩ := List.nodup_cons.mp h
      rw [List.map_cons, List.sum_cons]
      by_cases hsame : first = key
      · -- no later key is the same
        have hzero : ∀ k ∈ keys, (if k = key then w else 0) = 0 := by
          intro k hk
          rw [if_neg]
          rintro rfl
          exact hfirst (hsame ▸ hk)
        rw [if_pos hsame, List.map_congr_left hzero]
        simp
      · rw [if_neg hsame, Nat.zero_add]
        exact ih hkeys

theorem sum_lookup_le {keys : List String} (h : keys.Nodup) (f : α → Nat)
    (entries : List (String × α)) :
    (keys.map fun key => ((entries.lookup key).map f).getD 0).sum ≤
      (entries.map fun e => f e.2).sum := by
  induction entries with
  | nil => simp
  | cons e entries ih =>
      obtain ⟨k, v⟩ := e
      calc (keys.map fun key => ((((k, v) :: entries).lookup key).map f).getD 0).sum
          ≤ (keys.map fun key => (if key = k then f v else 0) +
              ((entries.lookup key).map f).getD 0).sum := by
            refine List.sum_le_sum fun key _ => ?_
            rw [lookup_cons_eq_ite]
            split
            · exact Nat.le_add_right _ _
            · exact Nat.le_add_left _ _
        _ = (keys.map fun key => if key = k then f v else 0).sum +
              (keys.map fun key => ((entries.lookup key).map f).getD 0).sum := List.sum_map_add
        _ ≤ f v + (entries.map fun e => f e.2).sum :=
            Nat.add_le_add (sum_map_ite_le h k (f v)) ih
        _ = (((k, v) :: entries).map fun e => f e.2).sum := rfl

theorem Dictionary.sum_find?_le {keys : List String} (h : keys.Nodup) (f : α → Nat)
    (d : Dictionary α) :
    (keys.map fun key => ((d.find? key).map f).getD 0).sum ≤ (d.values.map f).sum := by
  rw [Dictionary.values, List.map_map]
  exact sum_lookup_le h f d.entries

end AssetAtlas
