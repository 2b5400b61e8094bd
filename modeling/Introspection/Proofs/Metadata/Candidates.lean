import Introspection.Metadata.Selection
import Introspection.Proofs.Data.Except
import Mathlib.Data.List.Induction

/-!
# Candidates

A method is an accessor of a property (`Method.Accesses`) if its shape is that of a getter or of a
setter, its name leads to the property, and the name of the property is allowed.

Grouping the accessors among some methods by their properties never fails, since a name of the right
shape leads to some property.  The group of a property consists of its accessors, in the order of
the methods, and there is a group for exactly those properties that have an accessor
(`exists_candidates_eq_ok`).
-/

namespace Introspection

/-! ### Names -/

namespace PropertyName

theorem exists_after?_of_extends? {lead name : String} (hextends : extends? lead name = true) :
    ∃ rest, after? lead name = some rest := by
  obtain ⟨rest, hrest, -⟩ := (Option.any_eq_true _ _).1 hextends
  exact ⟨rest, hrest⟩

/-- The name of a getter leads to a property. -/
theorem exists_ofAccessor?_of_isGetter {name : String} (hgetter : isGetter name = true) :
    ∃ property, ofAccessor? name = some property := by
  rw [← Option.isSome_iff_exists, ofAccessor?, Option.isSome_map, Option.isSome_map]
  rcases Bool.or_eq_true_iff.1 hgetter with hget | his
  · obtain ⟨rest, hrest⟩ := exists_after?_of_extends? hget
    cases after? "is" name <;> simp [hrest]
  · obtain ⟨rest, hrest⟩ := exists_after?_of_extends? his
    simp [hrest]

/-- The name of a setter leads to a property. -/
theorem exists_ofAccessor?_of_isSetter {name : String} (hsetter : isSetter name = true) :
    ∃ property, ofAccessor? name = some property := by
  obtain ⟨rest, hrest⟩ := exists_after?_of_extends? hsetter
  rw [← Option.isSome_iff_exists, ofAccessor?, Option.isSome_map, Option.isSome_map]
  cases after? "is" name <;> cases after? "get" name <;> simp [hrest]

end PropertyName

/-! ### Accessors of a property -/

namespace Method

/-- Whether a method has the shape of an accessor of a direction. -/
def isAccessor : Direction → Method → Bool
  | .get => isGetter
  | .set => isSetter

/-- The method is an accessor of a property: it has the shape of one, its name leads to the
property, and this may be the name of a property. -/
def Accesses (direction : Direction) (property : String) (m : Method) : Prop :=
  m.isAccessor direction = true ∧ PropertyName.ofAccessor? m.name = some property ∧
    PropertyName.isAllowed property = true

instance (direction : Direction) (property : String) :
    DecidablePred (Accesses direction property) :=
  fun m => inferInstanceAs (Decidable (m.isAccessor direction = true ∧ _ ∧ _))

/-- The name of an accessor leads to a property. -/
theorem exists_ofAccessor?_of_isAccessor {direction : Direction} {m : Method}
    (haccessor : m.isAccessor direction = true) :
    ∃ property, PropertyName.ofAccessor? m.name = some property := by
  cases direction with
  | get => exact PropertyName.exists_ofAccessor?_of_isGetter (Bool.and_eq_true_iff.1 haccessor).2
  | set => exact PropertyName.exists_ofAccessor?_of_isSetter (Bool.and_eq_true_iff.1 haccessor).2

/-- What reads a property has no parameters and the name of a getter. -/
theorem accesses_get_iff {property : String} {m : Method} :
    m.Accesses .get property ↔ m.params = [] ∧ PropertyName.isGetter m.name = true ∧
      PropertyName.ofAccessor? m.name = some property ∧ PropertyName.isAllowed property = true := by
  simp only [Accesses, isAccessor, isGetter, Bool.and_eq_true, List.isEmpty_iff, and_assoc]

/-- What writes a property has one parameter and the name of a setter. -/
theorem accesses_set_iff {property : String} {m : Method} :
    m.Accesses .set property ↔ m.params.length = 1 ∧ PropertyName.isSetter m.name = true ∧
      PropertyName.ofAccessor? m.name = some property ∧ PropertyName.isAllowed property = true := by
  simp only [Accesses, isAccessor, isSetter, Bool.and_eq_true, beq_iff_eq, and_assoc]

end Method

/-! ### Grouping -/

namespace Registry

/-- The candidates of some pairs for a property. -/
def candidatesFor (property : String) (pairs : List (String × Method)) : List Method :=
  (pairs.filter (·.1 = property)).map (·.2)

theorem candidatesFor_append_singleton (property : String) (pairs : List (String × Method))
    (pair : String × Method) : candidatesFor property (pairs ++ [pair]) =
      candidatesFor property pairs ++ if pair.1 = property then [pair.2] else [] := by
  by_cases heq : pair.1 = property <;> simp [candidatesFor, heq]

/-- Adding the candidates one by one gives every property with candidates the list of them. -/
theorem find?_foldl_addCandidate (pairs : List (String × Method)) (property : String) :
    ((pairs.foldl addCandidate .empty).find? property).getD [] = candidatesFor property pairs ∧
      (pairs.foldl addCandidate .empty).find? property ≠ some [] := by
  induction pairs using List.reverseRecOn with
  | nil => simp [candidatesFor]
  | append_singleton pairs pair ih =>
    rw [List.foldl_append, candidatesFor_append_singleton, List.foldl_cons, List.foldl_nil,
      addCandidate, Assoc.find?_insert]
    by_cases heq : property = pair.1
    · subst heq
      simp [ih.1]
    · have hne : ¬ pair.1 = property := fun h => heq h.symm
      simpa [heq, hne] using ih

/-- A method with the property that its name leads to. -/
def paired? (m : Method) : Option (String × Method) :=
  (PropertyName.ofAccessor? m.name).map fun property => (property, m)

/-- The accessors of a direction with their properties, as far as these are allowed. -/
def accessorPairs (direction : Direction) (methods : List Method) : List (String × Method) :=
  ((methods.filter (Method.isAccessor direction)).filterMap paired?).filter fun pair =>
    PropertyName.isAllowed pair.1

/-- Methods whose names lead to properties are paired with these. -/
theorem mapM_withProperty_eq_ok {methods : List Method}
    (hnamed : ∀ m ∈ methods, ∃ property, PropertyName.ofAccessor? m.name = some property) :
    methods.mapM withProperty = .ok (methods.filterMap paired?) := by
  induction methods with
  | nil => rfl
  | cons m methods ih =>
    obtain ⟨property, hproperty⟩ := hnamed m List.mem_cons_self
    have hfirst : withProperty m = .ok (property, m) := by simp [withProperty, hproperty]
    have hpaired : paired? m = some (property, m) := by simp [paired?, hproperty]
    rw [List.mapM_cons, hfirst, ih fun m' hm' => hnamed m' (List.mem_cons_of_mem _ hm'),
      List.filterMap_cons_some hpaired]
    rfl

/-- The candidates for a property among the accessors are the accessors of this property. -/
theorem candidatesFor_accessorPairs (direction : Direction) (methods : List Method)
    (property : String) : candidatesFor property (accessorPairs direction methods) =
      methods.filter (·.Accesses direction property) := by
  induction methods with
  | nil => rfl
  | cons m methods ih =>
    unfold candidatesFor accessorPairs at ih ⊢
    cases haccessor : m.isAccessor direction with
    | false => simpa [haccessor, Method.Accesses] using ih
    | true =>
      obtain ⟨named, hnamed⟩ := Method.exists_ofAccessor?_of_isAccessor haccessor
      have hpaired : paired? m = some (named, m) := by simp [paired?, hnamed]
      rw [List.filter_cons_of_pos haccessor, List.filterMap_cons_some hpaired]
      by_cases heq : named = property
      · subst heq
        cases hallowed : PropertyName.isAllowed named <;>
          simpa [hallowed, haccessor, hnamed, Method.Accesses] using ih
      · have hnot : ¬ m.Accesses direction property := by
          rintro ⟨-, hproperty, -⟩
          rw [hnamed] at hproperty
          exact heq (Option.some.inj hproperty)
        cases hallowed : PropertyName.isAllowed named <;>
          simpa [hallowed, hnot, heq] using ih

/-- Grouping the accessors of a direction never fails.  There is a group for each property that has
an accessor, and it consists of the accessors of this property. -/
theorem exists_candidates_eq_ok (direction : Direction) (methods : List Method) :
    ∃ groups, candidates (Method.isAccessor direction) methods = .ok groups ∧
      ∀ property ms, (property, ms) ∈ groups.entries ↔
        ms = methods.filter (·.Accesses direction property) ∧ ms ≠ [] := by
  have hmapM : (methods.filter (Method.isAccessor direction)).mapM withProperty =
      .ok ((methods.filter (Method.isAccessor direction)).filterMap paired?) :=
    mapM_withProperty_eq_ok fun m hm =>
      Method.exists_ofAccessor?_of_isAccessor (List.mem_filter.1 hm).2
  have hok : candidates (Method.isAccessor direction) methods =
      .ok ((accessorPairs direction methods).foldl addCandidate .empty) := by
    rw [candidates, hmapM]
    rfl
  refine ⟨_, hok, fun property ms => ?_⟩
  obtain ⟨hfind, hne⟩ := find?_foldl_addCandidate (accessorPairs direction methods) property
  rw [candidatesFor_accessorPairs] at hfind
  constructor
  · intro hmem
    rw [Assoc.find?_eq_some_iff.2 hmem] at hfind hne
    exact ⟨hfind, fun hnil => hne (by rw [hnil])⟩
  · rintro ⟨rfl, hnonempty⟩
    rw [← Assoc.find?_eq_some_iff]
    cases hsome : ((accessorPairs direction methods).foldl addCandidate .empty).find? property with
    | none =>
      rw [hsome] at hfind
      exact absurd hfind.symm hnonempty
    | some ms =>
      rw [hsome] at hfind
      exact congrArg some hfind

/-- Where a property has accessors, these are the one group of candidates for it. -/
theorem filter_candidates (direction : Direction) {methods : List Method}
    {groups : Assoc String (List Method)}
    (hok : candidates (Method.isAccessor direction) methods = .ok groups) {property : String}
    (hne : methods.filter (·.Accesses direction property) ≠ []) :
    (groups.entries.filter fun group => group.1 = property) =
      [(property, methods.filter (·.Accesses direction property))] := by
  obtain ⟨groups', hgroups', hmem⟩ := exists_candidates_eq_ok direction methods
  cases hok.symm.trans hgroups'
  exact Assoc.filter_entries_eq_singleton ((hmem property _).2 ⟨rfl, hne⟩)

end Registry

end Introspection
