import Introspection.Proofs.Registry.WellFormed
import Mathlib.Data.List.Basic

/-!
# Methods of interfaces

A class has at its disposal the public methods of every interface that is reached from it through
interfaces alone (`Offers`).  `Registry.offered` lists them in the order in which the interfaces are
visited, and the methods that a class contributes are its own and these.
-/

namespace Introspection.Registry

variable {r r' : Registry} {id owner : ClassId} {c : ClassInfo} {m : Method}

/-- The method is one of those that the class declares. -/
def Declares (r : Registry) (owner : ClassId) (m : Method) : Prop :=
  ∃ c, r.class? owner = some c ∧ m ∈ c.methods

/-- The method is public and declared by an interface that is reached from the class through
interfaces. -/
def Offers (r : Registry) (owner : ClassId) (m : Method) : Prop :=
  ∃ interface, Relation.TransGen (r.hierarchy.Edge .interfaces) owner interface ∧
    r.Declares interface m ∧ m.modifiers.isPublic = true

/-- The methods that the interfaces of a class offer, from the nearest on. -/
def offered (r : Registry) (c : ClassInfo) : List Method :=
  (c.interfaces.filterMap Ty.rawClass?).flatMap r.interfaceMethods

theorem mem_interfaceMethods_iff :
    m ∈ r.interfaceMethods id ↔ ∃ interface, r.hierarchy.Reaches .interfaces id interface ∧
      r.Declares interface m ∧ m.modifiers.isPublic = true := by
  simp only [interfaceMethods, List.mem_flatMap, Hierarchy.mem_preorder_iff, Declares]
  constructor
  · rintro ⟨interface, hreach, hmem⟩
    cases hc : r.class? interface with
    | none =>
      rw [hc] at hmem
      cases hmem
    | some c =>
      rw [hc] at hmem
      obtain ⟨hm, hpublic⟩ := List.mem_filter.1 hmem
      exact ⟨interface, hreach, ⟨c, hc, hm⟩, hpublic⟩
  · rintro ⟨interface, hreach, ⟨c, hc, hm⟩, hpublic⟩
    refine ⟨interface, hreach, ?_⟩
    rw [hc]
    exact List.mem_filter.2 ⟨hm, hpublic⟩

/-- The interfaces that a registered class names are those to which its declaration leads. -/
theorem mem_rawInterfaces_iff (hc : r.class? owner = some c) {interface : ClassId} :
    interface ∈ c.interfaces.filterMap Ty.rawClass? ↔
      r.hierarchy.Edge .interfaces owner interface := by
  rw [Hierarchy.Edge, declaration_hierarchy, hc]
  rfl

/-- What is listed for a registered class is what its interfaces offer. -/
theorem mem_offered_iff (hc : r.class? owner = some c) : m ∈ r.offered c ↔ r.Offers owner m := by
  simp only [offered, List.mem_flatMap, mem_rawInterfaces_iff hc, mem_interfaceMethods_iff, Offers]
  constructor
  · rintro ⟨first, hedge, interface, hreach, hrest⟩
    exact ⟨interface, Relation.TransGen.head'_iff.2 ⟨first, hedge, hreach⟩, hrest⟩
  · rintro ⟨interface, hpath, hrest⟩
    obtain ⟨first, hedge, hreach⟩ := Relation.TransGen.head'_iff.1 hpath
    exact ⟨first, hedge, interface, hreach, hrest⟩

/-! ### Later registries -/

/-- The hierarchies of a registry and of one that extends it agree on the classes of the first
one. -/
theorem Extends.agreeOn (hextends : r.Extends r') (hr : r.WellFormed) :
    r.hierarchy.AgreeOn r'.hierarchy fun id => ∃ c, r.class? id = some c where
  declaration_eq := by
    rintro id ⟨c, hc⟩
    rw [declaration_hierarchy, declaration_hierarchy, hc, hextends id c hc]
  closed := by
    rintro id parent ⟨c, hc⟩ hedge
    exact hr.exists_class_of_inherits hc (.single hedge)

/-- A registered class has the same superclasses in a registry that extends its own. -/
theorem Extends.superclassChain_eq (hextends : r.Extends r') (hr : r.WellFormed)
    (hc : r.class? id = some c) : r'.superclassChain id = r.superclassChain id :=
  (hextends.agreeOn hr).preorder_eq Hierarchy.edge_parents_of_edge_superclass ⟨c, hc⟩

/-- A registered class brings in the same interface methods in a registry that extends its own. -/
theorem Extends.interfaceMethods_eq (hextends : r.Extends r') (hr : r.WellFormed) {id : ClassId}
    {c : ClassInfo} (hc : r.class? id = some c) :
    r'.interfaceMethods id = r.interfaceMethods id := by
  have hpreorder := (hextends.agreeOn hr).preorder_eq
    Hierarchy.edge_parents_of_edge_interfaces ⟨c, hc⟩
  rw [interfaceMethods, interfaceMethods, hpreorder]
  -- only the registered classes of the walk matter, and all of it is registered
  apply List.flatMap_congr
  intro other hother
  have hinherits : r.hierarchy.Inherits id other :=
    (Hierarchy.mem_preorder_iff.1 hother).lift (fun id => id) fun _ _ =>
      Hierarchy.edge_parents_of_edge_interfaces
  obtain ⟨c', hc'⟩ := hr.exists_class_of_inherits hc hinherits
  rw [hc', hextends other c' hc']

end Introspection.Registry
