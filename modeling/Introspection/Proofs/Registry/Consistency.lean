import Introspection.Proofs.Registry.Interfaces

/-!
# Consistency of reachable registries

What a registry answers in every state that calls lead to, in whatever order places are reserved
and filled and whatever calls fail: `Registry.Consistent` collects what holds within one state, and
`Registry.Keeps` what a later state answers about the classes of an earlier one.

`reachable_consistent` is the main statement.
-/

namespace Introspection.Registry

variable {r r' : Registry} {d : ClassDraft}

/-- The answers of a registry agree with each other. -/
structure Consistent (r : Registry) : Prop where
  /-- A name is found exactly in the place of the class with that name. -/
  find?_eq_some_iff : ∀ name id,
    r.find? name = some id ↔ ∃ c, r.class? id = some c ∧ c.name = name
  /-- The size is the number of registered classes. -/
  size_eq : r.size = r.registered.length
  /-- A superclass is registered and neither an interface nor final, and no interface has one. -/
  superclass : ∀ id c, r.class? id = some c → ∀ ty ∈ c.superclass, c.isInterface = false ∧
    ∃ raw parent, ty.rawClass? = some raw ∧ r.class? raw = some parent ∧
      parent.isInterface = false ∧ parent.modifiers.isFinal = false
  /-- Interfaces are registered, and are interfaces. -/
  interfaces : ∀ id c, r.class? id = some c → ∀ ty ∈ c.interfaces,
    ∃ raw parent, ty.rawClass? = some raw ∧ r.class? raw = some parent ∧ parent.isInterface = true
  /-- No class inherits from itself. -/
  acyclic : r.hierarchy.Acyclic
  /-- Superclass chains end in `Object`, apart from those of interfaces. -/
  getLast?_superclassChain : ∀ id c, r.class? id = some c → c.isInterface = false →
    (r.superclassChain id).getLast? = some .object

/-- All that the first registry answers about its classes, the second one answers as well. -/
structure Keeps (r r' : Registry) : Prop where
  /-- The classes are still there. -/
  class?_eq : ∀ id c, r.class? id = some c → r'.class? id = some c
  /-- Their names lead to them. -/
  find?_eq : ∀ name id, r.find? name = some id → r'.find? name = some id
  /-- They have the same declarations in the hierarchy. -/
  declaration_eq : ∀ id c, r.class? id = some c →
    r'.hierarchy.declaration id = r.hierarchy.declaration id
  /-- They have the same superclasses. -/
  superclassChain_eq : ∀ id c, r.class? id = some c → r'.superclassChain id = r.superclassChain id
  /-- They bring in the same interface methods. -/
  interfaceMethods_eq : ∀ id c, r.class? id = some c →
    r'.interfaceMethods id = r.interfaceMethods id
  /-- They are subclasses of the same classes. -/
  isSubclass_eq : ∀ id c, r.class? id = some c → ∀ sup,
    r'.hierarchy.isSubclass id sup = r.hierarchy.isSubclass id sup

/-- A well-formed registry answers consistently. -/
theorem WellFormed.consistent (hr : r.WellFormed) : r.Consistent where
  find?_eq_some_iff _ _ := hr.find?_iff
  size_eq := hr.size_eq
  superclass _ _ hc := hr.superclass hc
  interfaces _ _ hc := hr.interfaces hc
  acyclic := hr.acyclic
  getLast?_superclassChain _ _ hc hkind := hr.getLast?_superclassChain hc hkind

/-- A well-formed registry that extends another one keeps its answers. -/
theorem Extends.keeps (hextends : r.Extends r') (hr : r.WellFormed) (hr' : r'.WellFormed) :
    r.Keeps r' where
  class?_eq := hextends
  find?_eq name id hfind := by
    obtain ⟨c, hc, hname⟩ := hr.find?_iff.1 hfind
    exact hr'.find?_iff.2 ⟨c, hextends id c hc, hname⟩
  declaration_eq _ c hc := (hextends.agreeOn hr).declaration_eq ⟨c, hc⟩
  superclassChain_eq _ _ hc := hextends.superclassChain_eq hr hc
  interfaceMethods_eq _ _ hc := hextends.interfaceMethods_eq hr hc
  isSubclass_eq _ c hc sup := (hextends.agreeOn hr).isSubclass_eq ⟨c, hc⟩ sup

/-- Every reachable registry is consistent.  A registration that fails changes nothing, and one that
succeeds keeps all answers about the classes registered before. -/
theorem reachable_consistent (hr : r.Reachable) :
    r.Consistent ∧ ∀ d : ClassDraft, d.Described →
      (∀ e, r.register d = .error e → r.after (.register d) = r) ∧
        ∀ r', r.register d = .ok r' → r.after (.register d) = r' ∧ r.Keeps r' := by
  refine ⟨hr.wellFormed.consistent, fun d hd => ⟨fun e => after_register_of_eq_error, ?_⟩⟩
  intro r' hok
  have hafter : r.after (.register d) = r' := after_register_of_eq_ok hok
  refine ⟨hafter, ?_⟩
  have hreachable : (r.after (.register d)).Reachable := hr.after (.register d) hd
  have hextends : r.Extends (r.after (.register d)) := extends_after r (.register d)
  rw [hafter] at hreachable hextends
  exact hextends.keeps hr.wellFormed hreachable.wellFormed

/-- The draft of a class in the first free place that extends the class in the next one. -/
def childDraft : ClassDraft :=
  (ClassDraft.ofKind ⟨7⟩ "Child" .ordinary).withSuperclass (.ofClass ⟨8⟩)

/-- The draft of a class in the second free place. -/
def parentDraft : ClassDraft :=
  .ofKind ⟨8⟩ "Parent" .ordinary

/-- The calls that reserve two places and fill them in the opposite order, after a refused attempt
to fill the first place too early. -/
def backwardCalls : List RegistryCall :=
  [.reserve "Child" .ordinary, .reserve "Parent" .ordinary, .register childDraft,
    .register parentDraft, .register childDraft]

/-- The registry filled backwards is reachable, so it is consistent. -/
theorem backwardCalls_consistent :
    (backwardCalls.foldl after initial).Reachable ∧
      (backwardCalls.foldl after initial).superclassChain ⟨7⟩ = [⟨7⟩, ⟨8⟩, .object] ∧
      (backwardCalls.foldl after initial).Consistent := by
  have hreachable : (backwardCalls.foldl after initial).Reachable :=
    Reachable.initial.foldl (by decide)
  exact ⟨hreachable, by decide +kernel, (reachable_consistent hreachable).1⟩

end Introspection.Registry
