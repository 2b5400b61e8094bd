import Introspection.Metadata.Basic
import Mathlib.Data.List.Induction

/-!
# Tables of properties

A table records the accessor of a property and the runtime class of its value side by side, each in
a map of its own.  `PropertyTable.Holds P` says that the two maps have not drifted apart: they have
values for the same names, and what is recorded for one name satisfies `P`.

Recording keeps this up, also where it takes the place of what was there (`Holds.record`), so it
holds of every table that has been made by recording (`holds_ofList`).
-/

namespace Introspection

namespace PropertyTable

variable {P Q : String → Property → Prop} {t : PropertyTable} {name other : String} {p : Property}

/-! ### The view after each operation -/

@[simp] theorem find?_accessors_record :
    (t.record name p).accessors.find? other =
      if other = name then some p.accessor else t.accessors.find? other :=
  NameMap.find?_insert t.accessors name other p.accessor

@[simp] theorem find?_types_record :
    (t.record name p).types.find? other =
      if other = name then some p.type else t.types.find? other :=
  NameMap.find?_insert t.types name other p.type

theorem find?_eq_some_iff :
    t.find? name = some p ↔
      t.accessors.find? name = some p.accessor ∧ t.types.find? name = some p.type := by
  obtain ⟨a, type⟩ := p
  unfold find?
  cases t.accessors.find? name <;> cases t.types.find? name <;> simp

theorem find?_record :
    (t.record name p).find? other = if other = name then some p else t.find? other := by
  unfold find?
  rw [find?_accessors_record, find?_types_record]
  by_cases heq : other = name
  · rw [if_pos heq, if_pos heq, if_pos heq]
  · rw [if_neg heq, if_neg heq, if_neg heq]

theorem mem_names_record : other ∈ (t.record name p).names ↔ other = name ∨ other ∈ t.names :=
  NameMap.mem_names_insert t.accessors name other p.accessor

theorem contains_iff_mem_names : t.contains name = true ↔ name ∈ t.names :=
  (NameMap.mem_names_iff t.accessors name).symm

theorem ofList_append_singleton (entries : List (String × Property))
    (entry : String × Property) :
    ofList (entries ++ [entry]) = (ofList entries).record entry.1 entry.2 := by
  simp [ofList]

/-- What is found under a name is what has been recorded under it last. -/
theorem find?_ofList (entries : List (String × Property)) (name : String) :
    (ofList entries).find? name =
      ((entries.filter fun entry => entry.1 = name).getLast?).map (·.2) := by
  induction entries using List.reverseRecOn with
  | nil => rfl
  | append_singleton entries entry ih =>
    rw [ofList_append_singleton, find?_record, ih, List.filter_append]
    by_cases heq : entry.1 = name
    · simp [heq]
    · have hne : ¬ name = entry.1 := fun e => heq e.symm
      simp [heq, hne]

/-- The names of the properties that have been recorded. -/
theorem mem_names_ofList {entries : List (String × Property)} :
    name ∈ (ofList entries).names ↔ ∃ entry ∈ entries, entry.1 = name := by
  induction entries using List.reverseRecOn with
  | nil => simp [ofList, empty, names, NameMap.empty, NameMap.names]
  | append_singleton entries entry ih =>
    rw [ofList_append_singleton, mem_names_record, ih]
    constructor
    · rintro (rfl | ⟨old, hold, rfl⟩)
      · exact ⟨entry, by simp, rfl⟩
      · exact ⟨old, List.mem_append_left _ hold, rfl⟩
    · rintro ⟨found, hfound, rfl⟩
      rcases List.mem_append.1 hfound with hold | hnew
      · exact .inr ⟨found, hold, rfl⟩
      · exact .inl (by rw [List.mem_singleton.1 hnew])

/-! ### What tables keep up -/

/-- Accessors and classes are recorded for the same names, and what is recorded for a name satisfies
`P`. -/
structure Holds (P : String → Property → Prop) (t : PropertyTable) : Prop where
  /-- There is a class exactly where there is an accessor. -/
  isSome_find?_types : ∀ name, (t.types.find? name).isSome = (t.accessors.find? name).isSome
  /-- Accessor and class of a name satisfy `P`. -/
  property : ∀ {name a type}, t.accessors.find? name = some a → t.types.find? name = some type →
    P name ⟨a, type⟩

/-- The table without properties has nothing to keep up. -/
theorem holds_empty : Holds P empty where
  isSome_find?_types _ := rfl
  property hname _ := by simp [empty] at hname

/-- Recording a property that satisfies `P` keeps the table in step. -/
theorem Holds.record (ht : t.Holds P) (hp : P name p) : (t.record name p).Holds P where
  isSome_find?_types other := by
    rw [find?_types_record, find?_accessors_record]
    split
    · rfl
    · exact ht.isSome_find?_types other
  property {other a type} ha htype := by
    rw [find?_accessors_record] at ha
    rw [find?_types_record] at htype
    split at ha
    · next heq =>
      rw [if_pos heq] at htype
      cases ha
      cases htype
      exact heq ▸ hp
    · next hne =>
      rw [if_neg hne] at htype
      exact ht.property ha htype

/-- A table made by recording properties that satisfy `P` is in step. -/
theorem holds_ofList {entries : List (String × Property)}
    (hentries : ∀ entry ∈ entries, P entry.1 entry.2) : (ofList entries).Holds P := by
  induction entries using List.reverseRecOn with
  | nil => exact holds_empty
  | append_singleton entries entry ih =>
    rw [ofList_append_singleton]
    have hold : (ofList entries).Holds P :=
      ih fun other hother => hentries other (List.mem_append_left _ hother)
    exact hold.record (hentries entry (by simp))

/-- An accessor has a class beside it, and both satisfy `P`. -/
theorem Holds.exists_type (ht : t.Holds P) {a : Accessor}
    (ha : t.accessors.find? name = some a) :
    ∃ type, t.types.find? name = some type ∧ P name ⟨a, type⟩ := by
  have hsome : (t.types.find? name).isSome = true := by rw [ht.isSome_find?_types, ha]; rfl
  obtain ⟨type, htype⟩ := Option.isSome_iff_exists.1 hsome
  exact ⟨type, htype, ht.property ha htype⟩

/-- Each name has an accessor and a class, which satisfy `P`. -/
theorem Holds.exists_of_mem_names (ht : t.Holds P) (hname : name ∈ t.names) :
    ∃ a type, t.accessors.find? name = some a ∧ t.types.find? name = some type ∧
      P name ⟨a, type⟩ := by
  obtain ⟨a, ha⟩ := Option.isSome_iff_exists.1 ((NameMap.mem_names_iff _ _).1 hname)
  obtain ⟨type, htype, hp⟩ := ht.exists_type ha
  exact ⟨a, type, ha, htype, hp⟩

/-- What follows from `P` holds as well. -/
theorem Holds.mono (ht : t.Holds P) (himp : ∀ name p, P name p → Q name p) : t.Holds Q where
  isSome_find?_types := ht.isSome_find?_types
  property ha htype := himp _ _ (ht.property ha htype)

end PropertyTable

end Introspection
