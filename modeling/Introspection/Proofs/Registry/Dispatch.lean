import Introspection.Proofs.Registry.Linking
import Introspection.Proofs.Registry.SuperclassChain

/-!
# Dispatch

Which body a method call runs.  On an object of a class, a method that can be overridden runs the
body of the last method that implements its slot in the nearest class of the superclass chain that
has one (`Registry.overriding?`).  What interfaces offer counts only where no class of the chain has
anything, and methods that are abstract, private or static are passed over.

`call_runs_overriding` is the main statement.  It follows along the superclass chain from what is
found in the table of one class (`find?_dispatchOf`).
-/

namespace Introspection

/-- Whatever comes of calling the method, it runs no body but its own. -/
def Method.RunsOwnBody (m : Method) : Prop :=
  ∀ s target args,
    (∃ e, m.call s target args = (.error e, s) ∧ ∀ reason, e ≠ .fault (.body reason)) ∨
      ∃ body receiver, m.body? = some body ∧ m.call s target args = s.runBody body receiver args

/-- A static or private method runs its own body. -/
theorem Method.runsOwnBody_of_isVirtual_eq_false {m : Method} (hvirtual : m.isVirtual = false) :
    m.RunsOwnBody := by
  intro s target args
  unfold call
  split
  · exact .inl ⟨_, rfl, by simp⟩
  · split
    · exact .inl ⟨_, rfl, by simp⟩
    · split
      · cases hbody : m.body? with
        | none => exact .inl ⟨_, rfl, by simp⟩
        | some body => exact .inr ⟨body, .null, rfl, rfl⟩
      · next hstatic =>
        have hprivate : m.modifiers.isPrivate = true := by
          simpa [isVirtual, hstatic] using hvirtual
        cases target with
        | object ref =>
          have hdispatch : m.dispatch s ref = m.body? := by simp [dispatch, hprivate]
          dsimp only
          rw [hdispatch]
          cases hbody : m.body? with
          | none => exact .inl ⟨_, rfl, by simp⟩
          | some body => exact .inr ⟨body, .object ref, rfl, rfl⟩
        | _ => exact .inl ⟨_, rfl, by simp⟩

/-- A virtual method runs the body that is found under its slot in the table of the object, if it
may be used and gets as many arguments as it has parameters. -/
theorem Method.call_eq_runBody {m : Method} (hvirtual : m.isVirtual = true) {s : State}
    {ref : ObjectRef} {o : Instance} {args : List Value} {implementation : Implementation}
    (ho : s.heap.find? ref = some o)
    (hfound : o.layout.dispatch.find? m.slot = some implementation)
    (hpermits : s.permits m.toMember = true) (hargs : args.length = m.params.length) :
    m.call s (.object ref) args = s.runBody implementation.body (.object ref) args := by
  obtain ⟨hstatic, hprivate⟩ : m.modifiers.isStatic = false ∧ m.modifiers.isPrivate = false := by
    simpa [isVirtual] using hvirtual
  have hdispatch : m.dispatch s ref = some implementation.body := by
    simp [dispatch, hprivate, ho, hfound]
  simp [call, hpermits, hargs, hstatic, hdispatch]

namespace Registry

variable {r : Registry} {id : ClassId} {c : ClassInfo} {slot : MethodSlot}

/-- The method whose body objects of a class run for a slot: the last one that implements the slot
in the nearest class of the superclass chain that has such a method. -/
def overriding? (r : Registry) (id : ClassId) (slot : MethodSlot) : Option Method :=
  (r.superclassChain id).findSome? fun owner => (r.class? owner).bind (·.lastFor? slot)

/-! ### Along the superclass chain -/

theorem WellFormed.overriding?_of_superclass_eq_none (hr : r.WellFormed)
    (hc : r.class? id = some c) (hsuper : c.superclass = none) :
    r.overriding? id slot = c.lastFor? slot := by
  rw [overriding?, hr.superclassChain_of_superclass_eq_none hc hsuper]
  cases hlast : c.lastFor? slot <;> simp [hc, hlast]

theorem WellFormed.overriding?_of_superclass (hr : r.WellFormed) (hc : r.class? id = some c)
    {raw : ClassId} (hsuper : c.superclass.bind Ty.rawClass? = some raw) :
    r.overriding? id slot = (c.lastFor? slot).or (r.overriding? raw slot) := by
  rw [overriding?, hr.superclassChain_of_superclass hc hsuper, List.findSome?_cons, hc,
    Option.bind_some]
  cases c.lastFor? slot <;> rfl

theorem inheritedDispatch_of_superclass_eq_none (hsuper : c.superclass = none) :
    r.inheritedDispatch c = .empty := by
  simp [inheritedDispatch, hsuper]

theorem inheritedDispatch_of_superclass {raw : ClassId} {parent : ClassInfo}
    (hsuper : c.superclass.bind Ty.rawClass? = some raw) (hparent : r.class? raw = some parent) :
    r.inheritedDispatch c = parent.layout.dispatch := by
  simp [inheritedDispatch, hsuper, hparent]

/-- A class of the chain with a method that implements a slot has an overriding method for it. -/
theorem exists_overriding?_of_declares {owner : ClassId}
    (howner : r.hierarchy.Reaches .superclass id owner) {m : Method} (hm : r.Declares owner m)
    (himpl : m.implements slot = true) : ∃ k, r.overriding? id slot = some k := by
  obtain ⟨c', hc', hmem⟩ := hm
  have hlast : c'.lastFor? slot ≠ none := by
    intro hnone
    rw [ClassInfo.lastFor?_eq_none_iff.1 hnone m hmem] at himpl
    cases himpl
  rw [← Option.isSome_iff_exists, overriding?, List.findSome?_isSome_iff]
  refine ⟨owner, mem_superclassChain_iff.2 howner, ?_⟩
  rw [hc', Option.bind_some]
  exact Option.isSome_iff_ne_none.2 hlast

/-- An overriding method implements the slot. -/
theorem implements_of_overriding? {k : Method} (hk : r.overriding? id slot = some k) :
    k.implements slot = true := by
  obtain ⟨owner, -, hlast⟩ := List.exists_of_findSome?_eq_some hk
  obtain ⟨c, -, hlast⟩ := Option.bind_eq_some_iff.1 hlast
  exact ClassInfo.implements_of_lastFor? hlast

/-- What is found in the table of a class is the body of the overriding method, if there is one. -/
theorem Reachable.find?_dispatch_of_overriding? (h : r.Reachable) (hc : r.class? id = some c)
    {k : Method} (hk : r.overriding? id slot = some k) :
    c.layout.dispatch.find? slot = k.implementation? := by
  have hr := h.wellFormed
  obtain ⟨body, hbody⟩ := Method.exists_body?_of_implements (implements_of_overriding? hk)
  have himpl : k.implementation? = some ⟨k.id, body⟩ := by simp [Method.implementation?, hbody]
  rw [himpl]
  refine hr.superclass_induction (P := fun id c => r.overriding? id slot = some k →
    c.layout.dispatch.find? slot = some ⟨k.id, body⟩) ?root ?step hc hk
  case root =>
    intro id c hc hsuper hk
    rw [hr.overriding?_of_superclass_eq_none hc hsuper] at hk
    rw [h.linked id c hc, find?_dispatchOf, hk, Option.bind_some, himpl, Option.some_or,
      Option.some_or]
  case step =>
    intro id c raw parent hc hsuper hparent ih hk
    rw [hr.overriding?_of_superclass hc hsuper] at hk
    rw [h.linked id c hc, find?_dispatchOf, inheritedDispatch_of_superclass hsuper hparent]
    cases hlast : c.lastFor? slot with
    | some own =>
      rw [hlast, Option.some_or] at hk
      cases hk
      rw [Option.bind_some, himpl, Option.some_or, Option.some_or]
    | none =>
      rw [hlast, Option.none_or] at hk
      rw [Option.bind_none, Option.none_or, ih hk, Option.some_or]

/-- The table of a class has nothing under a slot exactly if no class of the chain declares a method
that implements it, and no interface above such a class offers one. -/
theorem Reachable.find?_dispatch_eq_none_iff (h : r.Reachable) (hc : r.class? id = some c) :
    c.layout.dispatch.find? slot = none ↔ ∀ owner, r.hierarchy.Reaches .superclass id owner →
      ∀ m, r.Declares owner m ∨ r.Offers owner m → m.implements slot = false := by
  have hr := h.wellFormed
  -- what the class itself and its interfaces contribute
  have hown : ∀ {id c}, r.class? id = some c → ((∀ m ∈ c.methods, m.implements slot = false) ∧
      (∀ m ∈ r.offered c, m.implements slot = false) ↔
        ∀ m, r.Declares id m ∨ r.Offers id m → m.implements slot = false) := by
    intro id c hc
    simp only [mem_offered_iff hc, or_imp, forall_and, Declares, hc, Option.some.injEq,
      exists_eq_left']
  simp only [← mem_superclassChain_iff]
  refine hr.superclass_induction (P := fun id c => c.layout.dispatch.find? slot = none ↔
    ∀ owner ∈ r.superclassChain id, ∀ m, r.Declares owner m ∨ r.Offers owner m →
      m.implements slot = false) ?root ?step hc
  case root =>
    intro id c hc hsuper
    rw [h.linked id c hc, find?_dispatchOf_eq_none_iff,
      inheritedDispatch_of_superclass_eq_none hsuper,
      hr.superclassChain_of_superclass_eq_none hc hsuper, ← and_assoc, and_right_comm, hown hc]
    simp
  case step =>
    intro id c raw parent hc hsuper hparent ih
    rw [h.linked id c hc, find?_dispatchOf_eq_none_iff,
      inheritedDispatch_of_superclass hsuper hparent, ih,
      hr.superclassChain_of_superclass hc hsuper, List.forall_mem_cons, ← and_assoc,
      and_right_comm, hown hc]

/-! ### Calls -/

/-- Calling a virtual method with a body that a class of the chain declares, on an object of a
class, runs the body of the overriding method.  The table of the class has nothing under a slot
exactly if no class of the chain declares a virtual method with a body for it and no interface above
the chain offers one.  Static and private methods run their own bodies. -/
theorem call_runs_overriding (h : r.Reachable) (hc : r.class? id = some c) :
    (∀ owner m, r.hierarchy.Reaches .superclass id owner → r.Declares owner m →
      m.isVirtual = true → m.body?.isSome = true →
        ∃ k body, r.overriding? id m.slot = some k ∧ k.body? = some body ∧
          ∀ s ref o args, s.heap.find? ref = some o → o.layout = c.layout →
            s.permits m.toMember = true → args.length = m.params.length →
              m.call s (.object ref) args = s.runBody body (.object ref) args) ∧
    (∀ slot, c.layout.dispatch.find? slot = none ↔
      ∀ owner, r.hierarchy.Reaches .superclass id owner →
        ∀ m, r.Declares owner m ∨ r.Offers owner m → m.implements slot = false) ∧
    ∀ m : Method, m.modifiers.isStatic = true ∨ m.modifiers.isPrivate = true → m.RunsOwnBody := by
  refine ⟨?runs, fun slot => h.find?_dispatch_eq_none_iff hc, ?own⟩
  case runs =>
    intro owner m howner hm hvirtual hbody
    have himpl : m.implements m.slot = true := by simp [Method.implements, hvirtual, hbody]
    obtain ⟨k, hk⟩ := exists_overriding?_of_declares howner hm himpl
    obtain ⟨body, hkbody⟩ := Method.exists_body?_of_implements (implements_of_overriding? hk)
    have hfound : c.layout.dispatch.find? m.slot = some ⟨k.id, body⟩ := by
      rw [h.find?_dispatch_of_overriding? hc hk, Method.implementation?, hkbody]
      rfl
    refine ⟨k, body, hk, hkbody, fun s ref o args ho hlayout hpermits hargs => ?_⟩
    rw [← hlayout] at hfound
    exact Method.call_eq_runBody hvirtual ho hfound hpermits hargs
  case own =>
    intro m hm
    apply Method.runsOwnBody_of_isVirtual_eq_false
    rcases hm with hstatic | hprivate
    · simp [Method.isVirtual, hstatic]
    · simp [Method.isVirtual, hprivate]

/-- A body that returns a text. -/
def sayingBody (text : String) : DraftBody :=
  .native fun _ _ => .done (.str text)

/-- The draft of a class that greets. -/
def hostDraft : ClassDraft :=
  (ClassDraft.ofKind ⟨7⟩ "Host" .ordinary).withMethod
    { MethodDraft.named "greet" with returnType := .ofClass ⟨1⟩, body? := some (sayingBody "host") }

/-- The draft of an interface that greets as well. -/
def greeterDraft : ClassDraft :=
  (ClassDraft.ofKind ⟨8⟩ "Greeter" .interface).withMethod
    { MethodDraft.named "greet" with
      returnType := .ofClass ⟨1⟩, body? := some (sayingBody "greeter") }

/-- The draft of a class that declares the method anew in two ways, abstract and private. -/
def shyHostDraft : ClassDraft :=
  ((((ClassDraft.ofKind ⟨9⟩ "ShyHost" .ordinary).withSuperclass (.ofClass ⟨7⟩)).withInterface
    (.ofClass ⟨8⟩)).withMethod
      { MethodDraft.named "greet" with returnType := .ofClass ⟨1⟩ }).withMethod
      { MethodDraft.named "greet" with
        returnType := .ofClass ⟨1⟩, modifiers := .privateFlag, body? := some (sayingBody "shy") }

/-- The calls that register the three classes. -/
def hostCalls : List RegistryCall :=
  [.reserve "Host" .ordinary, .reserve "Greeter" .interface, .reserve "ShyHost" .ordinary,
    .register hostDraft, .register greeterDraft, .register shyHostDraft]

/-- On an object of the third class the method of the first one still runs the body that the first
class declares, and neither the one of the interface nor the private one. -/
theorem hostCalls_runs_overriding :
    let r := hostCalls.foldl after initial
    ∃ m c, r.Declares ⟨7⟩ m ∧ r.class? ⟨9⟩ = some c ∧
      ∃ k body, r.overriding? ⟨9⟩ m.slot = some k ∧ k.body? = some body ∧
        k.id = ⟨⟨7⟩, .method, 0⟩ ∧
          ∀ s ref o args, s.heap.find? ref = some o → o.layout = c.layout →
            s.permits m.toMember = true → args.length = m.params.length →
              m.call s (.object ref) args = s.runBody body (.object ref) args := by
  intro r
  have hreachable : r.Reachable := Reachable.initial.foldl (by decide)
  have hregistered : (r.class? ⟨9⟩).isSome = true := by decide +kernel
  obtain ⟨c, hc⟩ := Option.isSome_iff_exists.1 hregistered
  have hhost : ((r.class? ⟨7⟩).bind (·.methods.head?)).map
      (fun m => (m.slot, m.isVirtual, m.body?.isSome)) = some (⟨"greet", []⟩, true, true) := by
    decide +kernel
  obtain ⟨m, hm, heq⟩ := Option.map_eq_some_iff.1 hhost
  obtain ⟨hslot, hvirtual, hbody⟩ : m.slot = ⟨"greet", []⟩ ∧ m.isVirtual = true ∧
      m.body?.isSome = true := by simpa using heq
  obtain ⟨host, hhostClass, hhead⟩ := Option.bind_eq_some_iff.1 hm
  have hdeclares : r.Declares ⟨7⟩ m := ⟨host, hhostClass, List.mem_of_head? hhead⟩
  have hchain : r.hierarchy.Reaches .superclass ⟨9⟩ ⟨7⟩ := by
    rw [← mem_superclassChain_iff]
    decide +kernel
  obtain ⟨k, body, hk, hkbody, hruns⟩ :=
    (call_runs_overriding hreachable hc).1 ⟨7⟩ m hchain hdeclares hvirtual hbody
  have hid : (r.overriding? ⟨9⟩ m.slot).map (·.id) = some ⟨⟨7⟩, .method, 0⟩ := by
    rw [hslot]
    decide +kernel
  rw [hk] at hid
  exact ⟨m, c, hdeclares, hc, k, body, hk, hkbody, Option.some.inj hid, hruns⟩

end Registry

end Introspection
