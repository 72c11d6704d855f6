/-!
Finite maps from text keys, kept in ascending order of their keys. Texts are ordered by code point,
which is also the order of their UTF-8 bytes, so going through a dictionary visits its keys in byte
order.
-/

namespace AssetAtlas

/-- Puts a value under a key into entries that ascend by key; an equal key keeps its place. -/
def insertEntry {α : Type} (key : String) (value : α) : List (String × α) → List (String × α)
  | [] => [(key, value)]
  | (k, v) :: rest =>
    if key < k then (key, value) :: (k, v) :: rest
    else if key = k then (key, value) :: rest
    else (k, v) :: insertEntry key value rest

theorem mem_insertEntry {α : Type} {key : String} {value : α} {l : List (String × α)}
    {e : String × α} (h : e ∈ insertEntry key value l) : e = (key, value) ∨ e ∈ l := by
  induction l with
  | nil => simpa [insertEntry] using h
  | cons head rest ih =>
    obtain ⟨k, v⟩ := head
    simp only [insertEntry] at h
    split at h
    · simpa using h
    · split at h
      · rcases List.mem_cons.1 h with h | h
        · exact .inl h
        · exact .inr (List.mem_cons_of_mem _ h)
      · rcases List.mem_cons.1 h with h | h
        · exact .inr (h ▸ List.mem_cons_self)
        · exact (ih h).imp_right (List.mem_cons_of_mem _)

theorem pairwise_insertEntry {α : Type} (key : String) (value : α) {l : List (String × α)}
    (h : l.Pairwise fun a b => a.1 < b.1) :
    (insertEntry key value l).Pairwise fun a b => a.1 < b.1 := by
  induction l with
  | nil => simp [insertEntry]
  | cons head rest ih =>
    obtain ⟨k, v⟩ := head
    obtain ⟨hk, hrest⟩ := List.pairwise_cons.1 h
    simp only [insertEntry]
    split
    · next hlt =>
      refine List.pairwise_cons.2 ⟨fun e he => ?_, h⟩
      rcases List.mem_cons.1 he with rfl | he
      · exact hlt
      · exact String.lt_trans hlt (hk e he)
    · split
      · next heq =>
        subst heq
        exact List.pairwise_cons.2 ⟨hk, hrest⟩
      · next hlt hne =>
        refine List.pairwise_cons.2 ⟨fun e he => ?_, ih hrest⟩
        rcases mem_insertEntry he with rfl | he
        · exact Decidable.byContradiction fun hn =>
            hne (String.le_antisymm (String.not_lt.1 hn) (String.not_lt.1 hlt))
        · exact hk e he

theorem insertEntry_of_mem {α : Type} {key : String} {value : α} {l : List (String × α)}
    (hl : l.Pairwise fun a b => a.1 < b.1) (h : (key, value) ∈ l) :
    insertEntry key value l = l := by
  induction l with
  | nil => exact nomatch h
  | cons head rest ih =>
    obtain ⟨k, v⟩ := head
    obtain ⟨hk, hrest⟩ := List.pairwise_cons.1 hl
    rcases List.mem_cons.1 h with heq | hmem
    · obtain ⟨rfl, rfl⟩ := Prod.mk.inj heq
      simp [insertEntry]
    · have hlt : k < key := hk _ hmem
      have hnlt : ¬ key < k := String.lt_asymm hlt
      have hne : key ≠ k := fun heq => String.lt_irrefl k (heq ▸ hlt)
      simp [insertEntry, hnlt, hne, ih hrest hmem]

theorem lookup_cons_eq_ite {α : Type} (k : String) (v : α) (l : List (String × α)) (key : String) :
    ((k, v) :: l).lookup key = if key = k then some v else l.lookup key := by
  by_cases hkey : key = k
  · rw [if_pos hkey, List.lookup_cons, beq_iff_eq.mpr hkey]
  · rw [if_neg hkey, List.lookup_cons, beq_false_of_ne hkey]

theorem lookup_insertEntry {α : Type} (key : String) (value : α) (l : List (String × α))
    (other : String) : (insertEntry key value l).lookup other =
      if other = key then some value else l.lookup other := by
  induction l with
  | nil => exact lookup_cons_eq_ite key value [] other
  | cons head rest ih =>
    obtain ⟨k, v⟩ := head
    simp only [insertEntry]
    split
    · exact lookup_cons_eq_ite key value _ other
    · split
      · next heq =>
        subst heq
        rw [lookup_cons_eq_ite, lookup_cons_eq_ite]
        split <;> rfl
      · next hne =>
        rw [lookup_cons_eq_ite, lookup_cons_eq_ite, ih]
        by_cases hother : other = k
        · subst hother
          rw [if_pos rfl, if_pos rfl, if_neg (Ne.symm hne)]
        · rw [if_neg hother, if_neg hother]

/-- A finite map from text to `α`; its entries strictly ascend by key. -/
structure Dictionary (α : Type) where
  entries : List (String × α)
  ordered : entries.Pairwise fun a b => a.1 < b.1

namespace Dictionary

variable {α : Type}

def empty : Dictionary α := ⟨[], .nil⟩

instance : Inhabited (Dictionary α) := ⟨empty⟩

instance : EmptyCollection (Dictionary α) := ⟨empty⟩

theorem ext {a b : Dictionary α} (h : a.entries = b.entries) : a = b := by
  cases a; cases b; simpa using h

def find? (d : Dictionary α) (key : String) : Option α :=
  d.entries.lookup key

def contains (d : Dictionary α) (key : String) : Bool :=
  (d.find? key).isSome

/-- Puts a value under a key, in place of an earlier one. -/
def insert (d : Dictionary α) (key : String) (value : α) : Dictionary α :=
  ⟨insertEntry key value d.entries, pairwise_insertEntry key value d.ordered⟩

theorem find?_insert (d : Dictionary α) (key : String) (value : α) (other : String) :
    (d.insert key value).find? other = if other = key then some value else d.find? other :=
  lookup_insertEntry key value d.entries other

theorem insert_of_mem {d : Dictionary α} {key : String} {value : α}
    (h : (key, value) ∈ d.entries) : d.insert key value = d :=
  ext (insertEntry_of_mem d.ordered h)

/-- The dictionary that holds the entries of a list; of entries with one key the last counts. -/
def ofList (l : List (String × α)) : Dictionary α :=
  l.foldl (fun d e => d.insert e.1 e.2) empty

def keys (d : Dictionary α) : List String :=
  d.entries.map (·.1)

def values (d : Dictionary α) : List α :=
  d.entries.map (·.2)

end Dictionary

end AssetAtlas
