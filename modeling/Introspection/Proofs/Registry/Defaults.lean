import Introspection.Proofs.Registry.Definition
import Introspection.Proofs.Registry.Dispatch

/-!
# Defaults

For a slot that no class of a superclass chain implements, a dispatch table takes a public method
with a body from an interface, a *default* (`Registry.HasDefault`).  If several interfaces have one,
the first counts that is met: `Registry.interfacesMet` lists the interfaces in this order, those of
superclasses before those of subclasses, and below one class in depth-first preorder.

An interface comes before those that it extends as long as they are met through it, but not if they
have been met on another way.  So the default need not be the most derived one; what
`dispatch_default_first_met` says is that there is a way to its interface on which no other
interface has a default.
-/

namespace Introspection.Registry

variable {r : Registry} {id : ClassId} {c : ClassInfo} {slot : MethodSlot} {m : Method}

/-- The interface declares a public method that implements the slot. -/
def HasDefault (r : Registry) (interface : ClassId) (slot : MethodSlot) : Prop :=
  ∃ m, r.Declares interface m ∧ m.modifiers.isPublic = true ∧ m.implements slot = true

/-- The interface is reached through interfaces from a class of the superclass chain. -/
def Meets (r : Registry) (id interface : ClassId) : Prop :=
  ∃ owner, r.hierarchy.Reaches .superclass id owner ∧
    Relation.TransGen (r.hierarchy.Edge .interfaces) owner interface

/-- The interfaces that a class names and those above them, in the order in which they are
visited. -/
def interfacesBelow (r : Registry) (id : ClassId) : List ClassId :=
  (r.hierarchy.declaration id).rawInterfaces.flatMap (r.hierarchy.preorder .interfaces)

/-- The interfaces above a class in the order in which dispatch tables meet them, those of the root
of the superclass chain first. -/
def interfacesMet (r : Registry) (id : ClassId) : List ClassId :=
  (r.superclassChain id).reverse.flatMap r.interfacesBelow

/-- The public methods of a class. -/
def publicMethods (r : Registry) (id : ClassId) : List Method :=
  match r.class? id with
  | some c => c.methods.filter (·.modifiers.isPublic)
  | none => []

/-- The first public method for a slot of the interfaces that a class meets. -/
def default? (r : Registry) (id : ClassId) (slot : MethodSlot) : Option Method :=
  ((r.interfacesMet id).flatMap r.publicMethods).find? (·.implements slot)

/-! ### Interfaces in order -/

theorem mem_interfacesMet_iff {interface : ClassId} :
    interface ∈ r.interfacesMet id ↔ r.Meets id interface := by
  simp only [interfacesMet, interfacesBelow, List.mem_flatMap, List.mem_reverse,
    mem_superclassChain_iff, Hierarchy.mem_preorder_iff, Meets]
  refine exists_congr fun owner => and_congr_right fun _ => ?_
  rw [Relation.TransGen.head'_iff]
  exact Iff.rfl

theorem WellFormed.interfacesMet_of_superclass_eq_none (hr : r.WellFormed)
    (hc : r.class? id = some c) (hsuper : c.superclass = none) :
    r.interfacesMet id = r.interfacesBelow id := by
  rw [interfacesMet, hr.superclassChain_of_superclass_eq_none hc hsuper, List.reverse_singleton,
    List.flatMap_singleton]

/-- A class meets the interfaces of its superclass before its own. -/
theorem WellFormed.interfacesMet_of_superclass (hr : r.WellFormed) (hc : r.class? id = some c)
    {raw : ClassId} (hsuper : c.superclass.bind Ty.rawClass? = some raw) :
    r.interfacesMet id = r.interfacesMet raw ++ r.interfacesBelow id := by
  rw [interfacesMet, hr.superclassChain_of_superclass hc hsuper, List.reverse_cons,
    List.flatMap_append, List.flatMap_singleton, interfacesMet]

/-- What the interfaces of a class offer are their public methods in this order. -/
theorem offered_eq (hc : r.class? id = some c) :
    r.offered c = (r.interfacesBelow id).flatMap r.publicMethods := by
  have hraw : (r.hierarchy.declaration id).rawInterfaces =
      c.interfaces.filterMap Ty.rawClass? := by
    rw [declaration_hierarchy, hc]
    rfl
  rw [interfacesBelow, hraw, List.flatMap_assoc]
  rfl

/-! ### Public methods -/

theorem mem_publicMethods_iff :
    m ∈ r.publicMethods id ↔ r.Declares id m ∧ m.modifiers.isPublic = true := by
  unfold publicMethods Declares
  cases r.class? id with
  | none => simp
  | some c => simp [List.mem_filter]

theorem find?_publicMethods_eq_none_iff :
    (r.publicMethods id).find? (·.implements slot) = none ↔ ¬ r.HasDefault id slot := by
  rw [List.find?_eq_none, HasDefault]
  constructor
  · rintro hnone ⟨m, hm, hpublic, himpl⟩
    exact hnone m (mem_publicMethods_iff.2 ⟨hm, hpublic⟩) himpl
  · intro hnone m hm himpl
    obtain ⟨hm, hpublic⟩ := mem_publicMethods_iff.1 hm
    exact hnone ⟨m, hm, hpublic, himpl⟩

/-- A public method that has been found in a class is declared by this class. -/
theorem Reachable.declaring_of_find?_publicMethods (h : r.Reachable)
    (hfirst : (r.publicMethods id).find? (·.implements slot) = some m) : m.declaring = id := by
  obtain ⟨⟨c, hc, hm⟩, -⟩ := mem_publicMethods_iff.1 (List.mem_of_find?_eq_some hfirst)
  exact h.declaring_of_mem_methods hc hm

theorem implements_of_default? (hm : r.default? id slot = some m) : m.implements slot = true :=
  List.find?_some hm

/-! ### What the table holds -/

/-- The table of a class has the default that its chain meets first, under a slot that no class of
the chain implements. -/
theorem Reachable.find?_dispatch_of_not_implemented (h : r.Reachable) (hc : r.class? id = some c)
    (hslot : ∀ owner ∈ r.superclassChain id, ∀ m, r.Declares owner m → m.implements slot = false) :
    c.layout.dispatch.find? slot = (r.default? id slot).bind Method.implementation? := by
  have hr := h.wellFormed
  -- the methods of the class itself contribute nothing
  have hlast : ∀ {id c}, r.class? id = some c →
      (∀ m, r.Declares id m → m.implements slot = false) → c.lastFor? slot = none :=
    fun hc hnone => ClassInfo.lastFor?_eq_none_iff.2 fun m hm => hnone m ⟨_, hc, hm⟩
  refine hr.superclass_induction (P := fun id c => (∀ owner ∈ r.superclassChain id, ∀ m,
    r.Declares owner m → m.implements slot = false) →
      c.layout.dispatch.find? slot = (r.default? id slot).bind Method.implementation?)
    ?root ?step hc hslot
  case root =>
    intro id c hc hsuper hslot
    rw [hr.superclassChain_of_superclass_eq_none hc hsuper, List.forall_mem_singleton] at hslot
    rw [h.linked id c hc, find?_dispatchOf, hlast hc hslot,
      inheritedDispatch_of_superclass_eq_none hsuper, default?,
      hr.interfacesMet_of_superclass_eq_none hc hsuper, offered_eq hc]
    rfl
  case step =>
    intro id c raw parent hc hsuper hparent ih hslot
    rw [hr.superclassChain_of_superclass hc hsuper, List.forall_mem_cons] at hslot
    rw [h.linked id c hc, find?_dispatchOf, hlast hc hslot.1,
      inheritedDispatch_of_superclass hsuper hparent, ih hslot.2, default?, default?,
      hr.interfacesMet_of_superclass hc hsuper, List.flatMap_append, List.find?_append,
      offered_eq hc, Option.bind_none, Option.none_or, ← default?]
    cases hdefault : r.default? raw slot with
    | none => simp
    | some m =>
      obtain ⟨body, hbody⟩ := Method.exists_body?_of_implements (implements_of_default? hdefault)
      simp [Method.implementation?, hbody]

/-! ### The default that is met first -/

/-- The default is that of the first interface in the list that has one. -/
theorem default?_eq_some_iff :
    r.default? id slot = some m ↔ ∃ before interface after,
      r.interfacesMet id = before ++ interface :: after ∧
        (r.publicMethods interface).find? (·.implements slot) = some m ∧
        ∀ other ∈ before, ¬ r.HasDefault other slot := by
  simp only [default?, List.find?_flatMap, List.findSome?_eq_some_iff,
    find?_publicMethods_eq_none_iff]

/-- From some class of the chain a way leads to the interface of the default on which no other
interface has one. -/
theorem exists_way_of_default? (hm : r.default? id slot = some m) :
    ∃ owner interface, r.hierarchy.Reaches .superclass id owner ∧
      (r.publicMethods interface).find? (·.implements slot) = some m ∧
      Relation.TransGen (fun a b => r.hierarchy.Edge .interfaces a b ∧
        (a = owner ∨ ¬ r.HasDefault a slot)) owner interface := by
  simp only [default?, interfacesMet, interfacesBelow, List.flatMap_assoc, List.find?_flatMap]
    at hm
  obtain ⟨owner, howner, hm⟩ := List.exists_of_findSome?_eq_some hm
  obtain ⟨raw, hraw, hm⟩ := List.exists_of_findSome?_eq_some hm
  obtain ⟨before, interface, after, hlisted, hfirst, hbefore⟩ := List.findSome?_eq_some_iff.1 hm
  obtain ⟨start, hstart, hpath⟩ := Hierarchy.exists_reaches_of_preorderFrom_eq hlisted
  obtain rfl := List.mem_singleton.1 hstart
  refine ⟨owner, interface, mem_superclassChain_iff.1 (List.mem_reverse.1 howner), hfirst, ?_⟩
  refine Relation.TransGen.head' (b := start) ⟨hraw, .inl rfl⟩ ?_
  exact hpath.lift (fun id => id) fun a b hstep =>
    ⟨hstep.1, .inr (find?_publicMethods_eq_none_iff.1 (hbefore a hstep.2))⟩

/-- Under a slot that no class of the superclass chain implements, the table of a class has at most
the default of the first interface with one that the chain meets, and some way leads to this
interface on which no other interface has one.  It is the most derived default exactly if no
interface that is met later, has a default and extends this one. -/
theorem dispatch_default_first_met (h : r.Reachable) (hc : r.class? id = some c)
    (hslot : ∀ owner m, r.hierarchy.Reaches .superclass id owner → r.Declares owner m →
      m.implements slot = false)
    {implementation : Implementation}
    (hfound : c.layout.dispatch.find? slot = some implementation) :
    ∃ m before after, m.implementation? = some implementation ∧
      r.interfacesMet id = before ++ m.declaring :: after ∧
      (r.publicMethods m.declaring).find? (·.implements slot) = some m ∧
      (∀ other ∈ before, ¬ r.HasDefault other slot) ∧
      (∃ owner, r.hierarchy.Reaches .superclass id owner ∧
        Relation.TransGen (fun a b => r.hierarchy.Edge .interfaces a b ∧
          (a = owner ∨ ¬ r.HasDefault a slot)) owner m.declaring) ∧
      ((∀ other, r.Meets id other →
          Relation.TransGen (r.hierarchy.Edge .interfaces) other m.declaring →
            ¬ r.HasDefault other slot) ↔
        ∀ other ∈ after, Relation.TransGen (r.hierarchy.Edge .interfaces) other m.declaring →
          ¬ r.HasDefault other slot) := by
  rw [h.find?_dispatch_of_not_implemented hc fun owner howner m hm =>
    hslot owner m (mem_superclassChain_iff.1 howner) hm] at hfound
  obtain ⟨m, hm, himplementation⟩ := Option.bind_eq_some_iff.1 hfound
  -- the list and the way both name the interface that declares the method
  obtain ⟨before, interface, after, hmet, hfirst, hbefore⟩ := default?_eq_some_iff.1 hm
  obtain rfl := h.declaring_of_find?_publicMethods hfirst
  obtain ⟨owner, interface, howner, hfirst', hway⟩ := exists_way_of_default? hm
  obtain rfl := h.declaring_of_find?_publicMethods hfirst'
  refine ⟨m, before, after, himplementation, hmet, hfirst, hbefore, ⟨owner, howner, hway⟩, ?_⟩
  constructor
  · intro hnone other hother
    exact hnone other (mem_interfacesMet_iff.1 (by simp [hmet, hother]))
  · intro hnone other hmeets habove
    have hother := mem_interfacesMet_iff.2 hmeets
    rw [hmet, List.mem_append, List.mem_cons] at hother
    rcases hother with hother | rfl | hother
    · exact hbefore other hother
    · exact absurd (habove.lift (fun id => id) fun _ _ => Hierarchy.edge_parents_of_edge_interfaces)
        (h.wellFormed.acyclic m.declaring)
    · exact hnone other hother habove

/-- The draft of an interface or a class with a getter that says what it is told. -/
def labelling (d : ClassDraft) (text : String) : ClassDraft :=
  d.withMethod { MethodDraft.named "getLabel" with
    returnType := .ofClass ⟨1⟩, body? := some (sayingBody text) }

/-- The drafts of an interface with a default, of two interfaces that extend it, the second of them
with a default of its own, and of a class that implements both. -/
def diamondDrafts : List ClassDraft :=
  [labelling (.ofKind ⟨7⟩ "Labelled" .interface) "base",
    (ClassDraft.ofKind ⟨8⟩ "Kept" .interface).withInterface (.ofClass ⟨7⟩),
    labelling ((ClassDraft.ofKind ⟨9⟩ "Relabelled" .interface).withInterface (.ofClass ⟨7⟩))
      "derived",
    ((ClassDraft.ofKind ⟨10⟩ "Item" .ordinary).withInterface (.ofClass ⟨8⟩)).withInterface
      (.ofClass ⟨9⟩)]

/-- The calls that define them. -/
def diamondCalls : List RegistryCall :=
  definitionCalls diamondDrafts

theorem diamondCalls_reachable : (diamondCalls.foldl after initial).Reachable :=
  reachable_definitionCalls (by decide)

/-- The class has the default of the first interface in its table, and no class of its chain
implements the slot. -/
theorem diamondCalls_find?_dispatch :
    let r := diamondCalls.foldl after initial
    ∃ c implementation, r.class? ⟨10⟩ = some c ∧
      (∀ owner m, r.hierarchy.Reaches .superclass ⟨10⟩ owner → r.Declares owner m →
        m.implements ⟨"getLabel", []⟩ = false) ∧
      c.layout.dispatch.find? ⟨"getLabel", []⟩ = some implementation ∧
      implementation.method = ⟨⟨7⟩, .method, 0⟩ := by
  intro r
  have hshown : ((r.class? ⟨10⟩).any fun c =>
      (c.layout.dispatch.find? ⟨"getLabel", []⟩).any fun implementation =>
        decide (implementation.method = ⟨⟨7⟩, .method, 0⟩)) = true := by decide +kernel
  obtain ⟨c, hc, hshown⟩ := (Option.any_eq_true _ _).1 hshown
  obtain ⟨implementation, hfound, hmethod⟩ := (Option.any_eq_true _ _).1 hshown
  refine ⟨c, implementation, hc, fun owner m howner ⟨c', hc', hm⟩ => ?_, hfound,
    of_decide_eq_true hmethod⟩
  have hnone : ((r.superclassChain ⟨10⟩).all fun owner => (r.class? owner).all fun c =>
      c.methods.all fun m => !m.implements ⟨"getLabel", []⟩) = true := by decide +kernel
  have hclass := List.all_eq_true.1 hnone owner (mem_superclassChain_iff.2 howner)
  rw [hc', Option.all_some] at hclass
  simpa using List.all_eq_true.1 hclass m hm

/-- The default in the table of the class is not the most derived one: the class names an interface
with a default of its own that extends the interface whose default the table has. -/
theorem diamondCalls_passes_over_derived :
    let r := diamondCalls.foldl after initial
    r.Reachable ∧ ∃ c implementation, r.class? ⟨10⟩ = some c ∧
      (∀ owner m, r.hierarchy.Reaches .superclass ⟨10⟩ owner → r.Declares owner m →
        m.implements ⟨"getLabel", []⟩ = false) ∧
      c.layout.dispatch.find? ⟨"getLabel", []⟩ = some implementation ∧
      implementation.method.owner = ⟨7⟩ ∧ r.Meets ⟨10⟩ ⟨9⟩ ∧
      Relation.TransGen (r.hierarchy.Edge .interfaces) ⟨9⟩ ⟨7⟩ ∧
      r.HasDefault ⟨9⟩ ⟨"getLabel", []⟩ := by
  intro r
  obtain ⟨c, implementation, hc, hslot, hfound, hmethod⟩ := diamondCalls_find?_dispatch
  refine ⟨diamondCalls_reachable, c, implementation, hc, hslot, hfound, by rw [hmethod], ?meets,
    ?edge, ?default⟩
  case meets =>
    rw [← mem_interfacesMet_iff]
    decide +kernel
  case edge =>
    have hedge : (⟨7⟩ : ClassId) ∈ (r.hierarchy.declaration ⟨9⟩).rawInterfaces := by decide +kernel
    exact .single hedge
  case default =>
    have hsome : ((r.publicMethods ⟨9⟩).find? (·.implements ⟨"getLabel", []⟩)).isSome = true := by
      decide +kernel
    rw [← not_not (a := r.HasDefault ⟨9⟩ ⟨"getLabel", []⟩), ← find?_publicMethods_eq_none_iff]
    exact Option.isSome_iff_ne_none.1 hsome

/-- In the same table, the interface of the default comes behind one without a default, and is met
on a way without another default. -/
theorem diamondCalls_default_first_met :
    let r := diamondCalls.foldl after initial
    r.interfacesMet ⟨10⟩ = [⟨8⟩, ⟨7⟩, ⟨9⟩, ⟨7⟩] ∧
      ∃ (m : Method) (before after : List ClassId), m.id = ⟨⟨7⟩, .method, 0⟩ ∧
        r.interfacesMet ⟨10⟩ = before ++ m.declaring :: after ∧
        (∀ other ∈ before, ¬ r.HasDefault other ⟨"getLabel", []⟩) ∧
        ∃ owner, r.hierarchy.Reaches .superclass ⟨10⟩ owner ∧
          Relation.TransGen (fun a b => r.hierarchy.Edge .interfaces a b ∧
            (a = owner ∨ ¬ r.HasDefault a ⟨"getLabel", []⟩)) owner m.declaring := by
  intro r
  obtain ⟨c, implementation, hc, hslot, hfound, hmethod⟩ := diamondCalls_find?_dispatch
  obtain ⟨m, before, after, himplementation, hmet, -, hbefore, hway, -⟩ :=
    dispatch_default_first_met diamondCalls_reachable hc hslot hfound
  obtain ⟨body, -, rfl⟩ := Option.map_eq_some_iff.1 himplementation
  exact ⟨by decide +kernel, m, before, after, hmethod, hmet, hbefore, hway⟩

end Introspection.Registry
