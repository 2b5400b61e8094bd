/-!
# Maps from names

A finite map from names, kept in ascending order of the names (by code points), so that two maps
with the same content are equal and the names come out sorted.  A map carries the proof that they
do.  The view of a map is `find?`.
-/

namespace Introspection

universe u

/-- A finite map from names to `α`. -/
structure NameMap (α : Type u) where
  /-- The entries. -/
  entries : List (String × α)
  /-- The names are in ascending order, so none of them occurs twice. -/
  ascending : (entries.map (·.1)).Pairwise (· < ·)
deriving DecidableEq

namespace NameMap

variable {α : Type u}

/-- The map without entries. -/
def empty : NameMap α := ⟨[], .nil⟩

/-- The value under a name. -/
def find? (m : NameMap α) (name : String) : Option α :=
  (m.entries.find? fun entry => entry.1 = name).map (·.2)

/-- Whether a name has a value. -/
def contains (m : NameMap α) (name : String) : Bool :=
  (m.find? name).isSome

/-- The names, ascending. -/
def names (m : NameMap α) : List String :=
  m.entries.map (·.1)

/-- Puts a value under a name into ascending entries. -/
def insertEntry (name : String) (value : α) : List (String × α) → List (String × α)
  | [] => [(name, value)]
  | entry :: rest =>
    if entry.1 = name then (name, value) :: rest
    else if name < entry.1 then (name, value) :: entry :: rest
    else entry :: insertEntry name value rest

theorem mem_insertEntry_names (name : String) (value : α) (entries : List (String × α))
    (other : String) :
    other ∈ (insertEntry name value entries).map (·.1) ↔
      other = name ∨ other ∈ entries.map (·.1) := by
  induction entries with
  | nil => simp [insertEntry]
  | cons entry rest ih =>
    unfold insertEntry
    split
    · rename_i h
      simp only [List.map_cons, List.mem_cons, h]
      grind
    · split
      · simp only [List.map_cons, List.mem_cons]
      · simp only [List.map_cons, List.mem_cons, ih]
        grind

/-- Writing a name keeps the names in ascending order. -/
theorem pairwise_names_insertEntry (name : String) (value : α) {entries : List (String × α)}
    (hascending : (entries.map (·.1)).Pairwise (· < ·)) :
    ((insertEntry name value entries).map (·.1)).Pairwise (· < ·) := by
  induction entries with
  | nil => simp [insertEntry]
  | cons entry rest ih =>
    obtain ⟨hfirst, hrest⟩ := List.pairwise_cons.1 hascending
    unfold insertEntry
    split
    · next heq => simpa [heq] using hascending
    · next hne =>
      split
      · next hlt =>
        refine List.pairwise_cons.2 ⟨fun other hother => ?_, hascending⟩
        rcases List.mem_cons.1 hother with rfl | hother
        · exact hlt
        · exact String.lt_trans hlt (hfirst other hother)
      · next hnot =>
        refine List.pairwise_cons.2 ⟨fun other hother => ?_, ih hrest⟩
        rcases (mem_insertEntry_names name value rest other).1 hother with rfl | hother
        · have hle : entry.1 ≤ other := String.not_lt.1 hnot
          exact String.not_le.1 fun hge => hne (String.le_antisymm hle hge)
        · exact hfirst other hother

/-- Puts a value under a name. -/
def insert (m : NameMap α) (name : String) (value : α) : NameMap α :=
  ⟨insertEntry name value m.entries, pairwise_names_insertEntry name value m.ascending⟩

/-- The map of some entries, where a later entry replaces an earlier one of the same name. -/
def ofList (entries : List (String × α)) : NameMap α :=
  entries.foldl (fun m entry => m.insert entry.1 entry.2) empty

/-! ### The view after each operation -/

@[simp] theorem find?_empty (name : String) : (empty : NameMap α).find? name = none := rfl

/-- Writing a name adds that name and no other. -/
theorem mem_names_insert (m : NameMap α) (name other : String) (value : α) :
    other ∈ (m.insert name value).names ↔ other = name ∨ other ∈ m.names :=
  mem_insertEntry_names name value m.entries other

theorem find?_insertEntry (name other : String) (value : α) (entries : List (String × α)) :
    ((insertEntry name value entries).find? fun entry => entry.1 = other).map (·.2) =
      if other = name then some value
      else (entries.find? fun entry => entry.1 = other).map (·.2) := by
  induction entries with
  | nil => by_cases h : other = name <;> simp [insertEntry, h, eq_comm]
  | cons entry rest ih =>
    unfold insertEntry
    split
    · by_cases h : other = name <;> grind
    · split
      · by_cases h : other = name <;> grind
      · by_cases ho : entry.1 = other
        · grind
        · simp only [List.find?_cons, ho, decide_false]
          exact ih

/-- The written value is found under its name, and every other name keeps its value. -/
theorem find?_insert (m : NameMap α) (name other : String) (value : α) :
    (m.insert name value).find? other = if other = name then some value else m.find? other :=
  find?_insertEntry name other value m.entries

/-- The names are those that have a value. -/
theorem mem_names_iff (m : NameMap α) (name : String) :
    name ∈ m.names ↔ (m.find? name).isSome = true := by
  simp only [find?, names, Option.isSome_map, List.find?_isSome, decide_eq_true_eq, List.mem_map]

/-- What is found under a name is the entry that the map has for it. -/
theorem find?_eq_some_iff {m : NameMap α} {name : String} {value : α} :
    m.find? name = some value ↔ (name, value) ∈ m.entries := by
  obtain ⟨entries, hascending⟩ := m
  simp only [find?]
  induction entries with
  | nil => simp
  | cons entry rest ih =>
    obtain ⟨hfirst, hrest⟩ := List.pairwise_cons.1 hascending
    by_cases heq : entry.1 = name
    · have hother : (name, value) ∉ rest := fun hmem =>
        String.ne_of_lt (hfirst name (List.mem_map.2 ⟨_, hmem, rfl⟩)) heq
      simp [heq, hother, Prod.ext_iff, eq_comm]
    · have hne : (name, value) ≠ entry := by
        rintro rfl
        exact heq rfl
      rw [List.find?_cons_of_neg (by simpa using heq), ih hrest]
      simp [hne]

end NameMap

end Introspection
