import Introspection.Proofs.Metadata.GetterChoice
import Introspection.Proofs.Metadata.InStep
import Introspection.Proofs.Metadata.Names

/-!
# Getters

Which of several getters a property is read through.  Unless two candidates do not compare, the one
chosen returns the narrowest class of all of them (`Hierarchy.Grounded.isAssignable_of_pickGetter`),
and what is recorded for a group of candidates is the one chosen.

Fields that are added later do not take the place of a getter.  In the metadata of a class that is
no record, the method that a property is read through therefore returns the narrowest class of all
collected methods that are getters of the property
(`Metadata.isAssignable_of_accessor_eq_method`).
-/

namespace Introspection

variable {h : Hierarchy} {source : ClassId} {methods : List Method} {name : String} {g : Method}

/-- If the property is read through a method, then this is one of the methods that read it, and the
class that it returns is the narrowest of theirs. -/
def Property.ReadsNarrowest (h : Hierarchy) (methods : List Method) (name : String)
    (p : Property) : Prop :=
  ∀ g, p.accessor = .method g → g ∈ methods ∧ g.Accesses .get name ∧
    ∀ m ∈ methods, m.Accesses .get name → h.isAssignable m.returnClass g.returnClass = true

namespace Hierarchy

/-! ### Tables -/

/-- What a group of getters makes a method the accessor of returns the narrowest class of the
group. -/
theorem Grounded.narrowest_of_getterOf (hh : h.Grounded) {property : String} {ms : List Method}
    {entries : List (String × Property)} (hok : h.getterOf source (property, ms) = .ok entries)
    {entry : String × Property} (hentry : entry ∈ entries) :
    entry.1 = property ∧ ∀ g, entry.2.accessor = .method g →
      g ∈ ms ∧ ∀ m ∈ ms, h.isAssignable m.returnClass g.returnClass = true := by
  cases ms with
  | nil =>
    cases hok
    cases hentry
  | cons first rest =>
    obtain ⟨p, hread, rfl⟩ := Except.map_eq_ok_iff.1 hok
    obtain ⟨type, -, rfl⟩ := Except.map_eq_ok_iff.1 hread
    rw [List.mem_singleton.1 hentry]
    refine ⟨rfl, fun g hg => ?_⟩
    have hmem := h.pickGetter_mem first rest
    rcases hpick : h.pickGetter first rest with ⟨m, ambiguous⟩
    rw [hpick] at hmem
    simp only [hpick] at hg
    cases ambiguous with
    | true => cases hg
    | false =>
      cases hg
      exact ⟨hmem, hh.isAssignable_of_pickGetter hpick⟩

/-- Getters made of some methods return the narrowest classes. -/
theorem Grounded.holds_gettersOf (hh : h.Grounded) {getters : PropertyTable}
    (hok : h.gettersOf source methods = .ok getters) :
    getters.Holds (Property.ReadsNarrowest h methods) := by
  obtain ⟨groups, hgroups, hok⟩ := Except.bind_eq_ok_iff.1 hok
  obtain ⟨entries, hentries, hok⟩ := Except.bind_eq_ok_iff.1 hok
  cases hok
  obtain ⟨groups', hgroups', hmem⟩ := Registry.exists_candidates_eq_ok .get methods
  cases hgroups.symm.trans hgroups'
  refine PropertyTable.holds_ofList fun entry hentry g hg => ?_
  obtain ⟨made, hmade, hentry⟩ := List.mem_flatten.1 hentry
  obtain ⟨⟨property, ms⟩, hgroup, hof⟩ := Except.exists_of_mem_mapM_eq_ok hentries hmade
  obtain ⟨rfl, -⟩ := (hmem property ms).1 hgroup
  obtain ⟨rfl, hnarrowest⟩ := hh.narrowest_of_getterOf hof hentry
  obtain ⟨hg, hleast⟩ := hnarrowest g hg
  obtain ⟨hg, haccesses⟩ := List.mem_filter.1 hg
  exact ⟨hg, of_decide_eq_true haccesses, fun m hm haccesses =>
    hleast m (List.mem_filter.2 ⟨hm, decide_eq_true haccesses⟩)⟩

/-- A field does not make a method the getter of anything. -/
theorem holds_getters_addField {properties properties' : Properties}
    (hholds : properties.getters.Holds (Property.ReadsNarrowest h methods)) {f : Field}
    (hok : h.addField source properties f = .ok properties') :
    properties'.getters.Holds (Property.ReadsNarrowest h methods) := by
  unfold addField at hok
  split at hok
  · obtain ⟨type, -, rfl⟩ := Except.map_eq_ok_iff.1 hok
    dsimp only [addMissing]
    split
    · exact hholds
    · exact hholds.record fun g hg => nomatch hg
  · cases hok
    exact hholds

end Hierarchy

/-! ### Metadata -/

/-- In a class that is no record, the getters among the collected methods return the narrowest
classes. -/
theorem Registry.holds_ordinaryProperties {r : Registry} (hh : r.hierarchy.Grounded) {id : ClassId}
    {properties : Properties} (hok : r.ordinaryProperties id methods = .ok properties) :
    properties.getters.Holds (Property.ReadsNarrowest r.hierarchy methods) := by
  obtain ⟨getters, hgetters, hok⟩ := Except.bind_eq_ok_iff.1 hok
  obtain ⟨setters, -, hok⟩ := Except.bind_eq_ok_iff.1 hok
  obtain ⟨fields, -, hok⟩ := Except.bind_eq_ok_iff.1 hok
  exact Except.foldlM_eq_ok_induction
    (P := fun p => p.getters.Holds (Property.ReadsNarrowest r.hierarchy methods)) hok
    (hh.holds_gettersOf hgetters)
    fun f _ p p' hp hok => Hierarchy.holds_getters_addField hp hok

namespace Metadata

variable {r : Registry} {id : ClassId} {c : ClassInfo} {m : Metadata}

/-- The properties of a class that is no record are made of its collected methods and of fields. -/
theorem exists_ordinaryProperties_of_ofClass (hc : r.class? id = some c)
    (hrecord : c.isRecord = false) (hm : ofClass r id = .ok m) :
    ∃ methods, r.collectedMethods id = .ok methods ∧
      r.ordinaryProperties id methods = .ok m.toProperties := by
  obtain ⟨c', hinfo, hok⟩ := Except.bind_eq_ok_iff.1 hm
  obtain ⟨methods, hmethods, hok⟩ := Except.bind_eq_ok_iff.1 hok
  cases hc.symm.trans (Registry.class?_of_classInfo_eq_ok hinfo)
  dsimp only at hok
  rw [hrecord, if_neg Bool.false_ne_true] at hok
  obtain ⟨properties, hproperties, hok⟩ := Except.bind_eq_ok_iff.1 hok
  cases hok
  exact ⟨methods, hmethods, hproperties⟩

/-- The method through which a property of a class that is no record is read is a collected getter
of the property, and its class is the narrowest of those of all collected getters. -/
theorem isAssignable_of_accessor_eq_method (h : r.Reachable) (hc : r.class? id = some c)
    (hrecord : c.isRecord = false) (hm : ofClass r id = .ok m)
    (hg : m.accessor .get name = .ok (.method g)) :
    (r.Collects id g ∧ g.Accesses .get name) ∧ ∀ k, r.Collects id k → k.Accesses .get name →
      r.hierarchy.isAssignable k.returnClass g.returnClass = true := by
  obtain ⟨methods, hmethods, hproperties⟩ := exists_ordinaryProperties_of_ofClass hc hrecord hm
  have hholds := Registry.holds_ordinaryProperties h.grounded hproperties
  obtain ⟨type, -, hnarrowest⟩ := hholds.exists_type (accessor_eq_ok_iff.1 hg)
  obtain ⟨hmem, haccesses, hleast⟩ := hnarrowest g rfl
  obtain ⟨hsound, hcomplete⟩ := h.mem_collectedMethods hc hmethods
  refine ⟨⟨hsound g hmem, haccesses⟩, fun k hk hkaccesses => ?_⟩
  -- a method of the same signature stands in for one that has been dropped
  obtain ⟨k', hk', hsignature⟩ := hcomplete k hk
  have hprovides : k.Provides false .get name := hkaccesses
  have hreturns : k'.returnClass = k.returnClass := congrArg Signature.returns hsignature
  rw [← hreturns]
  exact hleast k' hk' (hprovides.of_signature_eq hsignature)

end Metadata

end Introspection
