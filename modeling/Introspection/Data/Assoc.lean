/-!
# Association lists

A finite map as a list of entries in the order in which their keys first arrived.  `insert` writes
in place where the key is present and at the end where it is not.  A map carries the proof that no
key occurs twice in it.  The view of a map is `find?`.
-/

namespace Introspection

universe u v

/-- A finite map from `κ` to `α`. -/
structure Assoc (κ : Type u) (α : Type v) where
  /-- The entries, in order of arrival. -/
  entries : List (κ × α)
  /-- No key occurs twice. -/
  nodup : (entries.map (·.1)).Nodup

namespace Assoc

variable {κ : Type u} {α : Type v} [DecidableEq κ]

/-- The map without entries. -/
def empty : Assoc κ α := ⟨[], .nil⟩

/-- The value under a key. -/
def find? (m : Assoc κ α) (key : κ) : Option α :=
  (m.entries.find? fun entry => entry.1 = key).map (·.2)

/-- Whether a key has a value. -/
def contains (m : Assoc κ α) (key : κ) : Bool :=
  (m.find? key).isSome

/-- The keys, in order of arrival. -/
def keys (m : Assoc κ α) : List κ :=
  m.entries.map (·.1)

/-- The number of keys. -/
def size (m : Assoc κ α) : Nat :=
  m.entries.length

/-- Puts a value under a key into a list of entries. -/
def insertEntry (key : κ) (value : α) : List (κ × α) → List (κ × α)
  | [] => [(key, value)]
  | entry :: rest =>
    if entry.1 = key then (key, value) :: rest else entry :: insertEntry key value rest

/-- The entries after an insertion are the new one and old ones. -/
theorem mem_insertEntry {key : κ} {value : α} {entries : List (κ × α)} {entry : κ × α}
    (hmem : entry ∈ insertEntry key value entries) : entry = (key, value) ∨ entry ∈ entries := by
  induction entries with
  | nil => simpa [insertEntry] using hmem
  | cons first rest ih =>
    unfold insertEntry at hmem
    split at hmem
    · rcases List.mem_cons.1 hmem with hnew | hrest
      · exact .inl hnew
      · exact .inr (List.mem_cons_of_mem _ hrest)
    · rcases List.mem_cons.1 hmem with rfl | hrest
      · exact .inr List.mem_cons_self
      · exact (ih hrest).imp_right (List.mem_cons_of_mem _)

/-- Writing a key does not make it occur twice. -/
theorem nodup_insertEntry (key : κ) (value : α) {entries : List (κ × α)}
    (hnodup : (entries.map (·.1)).Nodup) : ((insertEntry key value entries).map (·.1)).Nodup := by
  induction entries with
  | nil => simp [insertEntry]
  | cons entry rest ih =>
    obtain ⟨hnew, hrest⟩ := List.nodup_cons.1 hnodup
    unfold insertEntry
    split
    · next heq => simpa [heq] using hnodup
    · next hne =>
      refine List.nodup_cons.2 ⟨fun hmem => ?_, ih hrest⟩
      obtain ⟨other, hother, hkey⟩ := List.mem_map.1 hmem
      rcases mem_insertEntry hother with rfl | hold
      · exact hne hkey.symm
      · exact hnew (List.mem_map.2 ⟨other, hold, hkey⟩)

/-- Puts a value under a key. -/
def insert (m : Assoc κ α) (key : κ) (value : α) : Assoc κ α :=
  ⟨insertEntry key value m.entries, nodup_insertEntry key value m.nodup⟩

/-- Takes a key and its value out. -/
def erase (m : Assoc κ α) (key : κ) : Assoc κ α :=
  ⟨m.entries.filter fun entry => ¬ entry.1 = key, m.nodup.sublist (List.filter_sublist.map _)⟩

/-! ### The view after each operation -/

@[simp] theorem find?_empty (key : κ) : (empty : Assoc κ α).find? key = none := rfl

theorem find?_insert (m : Assoc κ α) (key other : κ) (value : α) :
    (m.insert key value).find? other = if other = key then some value else m.find? other := by
  simp only [find?, insert]
  generalize m.entries = entries
  induction entries with
  | nil => by_cases h : other = key <;> simp [insertEntry, h, eq_comm]
  | cons entry rest ih =>
    by_cases he : entry.1 = key
    · by_cases h : other = key
      · simp [insertEntry, he, h]
      · have hne : ¬ key = other := fun e => h e.symm
        simp [insertEntry, he, h, hne]
    · by_cases ho : entry.1 = other
      · have h : ¬ other = key := fun e => he (ho.trans e)
        simp [insertEntry, h, ho]
      · simp only [insertEntry, he, if_false, List.find?_cons, ho, decide_false]
        exact ih

@[simp] theorem find?_insert_self (m : Assoc κ α) (key : κ) (value : α) :
    (m.insert key value).find? key = some value := by
  simp [find?_insert]

theorem find?_insert_of_ne (m : Assoc κ α) {key other : κ} (value : α) (h : other ≠ key) :
    (m.insert key value).find? other = m.find? other := by
  simp [find?_insert, h]

/-- A key that is new to the map makes it larger by one. -/
theorem size_insert_of_find?_eq_none {m : Assoc κ α} {key : κ} {value : α}
    (hnew : m.find? key = none) : (m.insert key value).size = m.size + 1 := by
  simp only [find?] at hnew
  simp only [size, insert]
  generalize m.entries = entries at hnew ⊢
  induction entries with
  | nil => rfl
  | cons entry rest ih =>
    by_cases he : entry.1 = key
    · simp [he] at hnew
    · simp only [List.find?_cons, he, decide_false] at hnew ih
      simp only [insertEntry, he, if_false, List.length_cons, ih hnew]

/-- An entry is the only one under its key. -/
theorem filter_entries_eq_singleton {m : Assoc κ α} {key : κ} {value : α}
    (hmem : (key, value) ∈ m.entries) :
    (m.entries.filter fun entry => entry.1 = key) = [(key, value)] := by
  obtain ⟨entries, hnodup⟩ := m
  dsimp only at hmem ⊢
  induction entries with
  | nil => cases hmem
  | cons entry rest ih =>
    obtain ⟨hnew, hrest⟩ := List.nodup_cons.1 hnodup
    rcases List.mem_cons.1 hmem with rfl | hmem
    · have hnone : (rest.filter fun entry => entry.1 = key) = [] :=
        List.filter_eq_nil_iff.2 fun other hother hkey =>
          hnew (List.mem_map.2 ⟨other, hother, of_decide_eq_true hkey⟩)
      rw [List.filter_cons, if_pos (decide_eq_true rfl), hnone]
    · have hne : ¬ entry.1 = key := by
        rintro rfl
        exact hnew (List.mem_map.2 ⟨_, hmem, rfl⟩)
      rw [List.filter_cons_of_neg (by simpa using hne)]
      exact ih hrest hmem

/-- What is found under a key is the entry that the map has for it. -/
theorem find?_eq_some_iff {m : Assoc κ α} {key : κ} {value : α} :
    m.find? key = some value ↔ (key, value) ∈ m.entries := by
  constructor
  · intro hfind
    obtain ⟨entry, hentry, rfl⟩ := Option.map_eq_some_iff.1 hfind
    have hkey : entry.1 = key := by simpa using List.find?_some hentry
    rw [← hkey]
    exact List.mem_of_find?_eq_some hentry
  · intro hmem
    rw [find?, ← List.head?_filter, filter_entries_eq_singleton hmem]
    rfl

theorem find?_erase (m : Assoc κ α) (key other : κ) :
    (m.erase key).find? other = if other = key then none else m.find? other := by
  simp only [find?, erase]
  generalize m.entries = entries
  induction entries with
  | nil => simp
  | cons entry rest ih =>
    by_cases he : entry.1 = key
    · by_cases h : other = key
      · simp only [h, if_true] at ih ⊢
        simp only [List.filter_cons, he, not_true, decide_false, Bool.false_eq_true, if_false]
        exact ih
      · have hne : ¬ entry.1 = other := fun e => h (e.symm.trans he)
        simp only [h, if_false] at ih ⊢
        simp only [List.filter_cons, he, not_true, decide_false, Bool.false_eq_true, if_false,
          List.find?_cons]
        rw [ih]
        have hne' : ¬ key = other := fun e => h e.symm
        simp [hne']
    · by_cases ho : entry.1 = other
      · have h : ¬ other = key := fun e => he (ho.trans e)
        simp [h, ho]
      · simp only [List.filter_cons, he, not_false_iff, decide_true, if_true, List.find?_cons, ho,
          decide_false]
        exact ih

end Assoc

end Introspection
