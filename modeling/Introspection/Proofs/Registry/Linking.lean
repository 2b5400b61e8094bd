import Introspection.Proofs.Registry.Interfaces
import Mathlib.Data.List.Induction

/-!
# Dispatch tables

The dispatch table of a class is made once, when the class is registered, from the table of its
superclass and from the methods of its interfaces.  Since neither of these ever changes, the table
is at any later time what would be made of them then: the registry is *linked*
(`Reachable.linked`).

Putting methods into a table one by one has a simple effect on what is found under a slot: among the
methods of the class the last one that implements the slot counts, and among those that are offered
by interfaces the first one, and only where nothing else has been found (`find?_dispatchOf`).
-/

namespace Introspection

/-- The method has a body that an object may run in the place of this slot. -/
def Method.implements (slot : MethodSlot) (m : Method) : Bool :=
  m.isVirtual && m.body?.isSome && m.slot = slot

/-- A method that implements a slot has a body. -/
theorem Method.exists_body?_of_implements {slot : MethodSlot} {m : Method}
    (himpl : m.implements slot = true) : ∃ body, m.body? = some body := by
  simp only [implements, Bool.and_eq_true] at himpl
  exact Option.isSome_iff_exists.1 himpl.1.2

theorem Method.slot_of_implements {slot : MethodSlot} {m : Method}
    (himpl : m.implements slot = true) : m.slot = slot := by
  simp only [implements, Bool.and_eq_true, decide_eq_true_eq] at himpl
  exact himpl.2

/-! ### Putting methods in -/

namespace DispatchTable

variable {t : DispatchTable} {m : Method} {slot : MethodSlot}

/-- Overriding changes what is found under the slots that the method implements. -/
theorem find?_override : (t.override m).find? slot =
    if m.implements slot then m.implementation? else t.find? slot := by
  unfold DispatchTable.override Method.implements Method.implementation?
  cases hvirtual : m.isVirtual with
  | false => simp
  | true =>
    cases hbody : m.body? with
    | none => simp
    | some body =>
      by_cases hslot : m.slot = slot
      · simp [hslot]
      · simp [hslot, Assoc.find?_insert_of_ne t _ (Ne.symm hslot)]

/-- Completing changes what is found under the slots that the method implements, if nothing was
found there. -/
theorem find?_complete : (t.complete m).find? slot =
    (t.find? slot).or (if m.implements slot then m.implementation? else none) := by
  unfold DispatchTable.complete
  cases hcontains : t.contains m.slot with
  | true =>
    cases himpl : m.implements slot with
    | false => simp
    | true =>
      have hslot : m.slot = slot := Method.slot_of_implements himpl
      obtain ⟨found, hfound⟩ := Option.isSome_iff_exists.1 hcontains
      rw [← hslot]
      simp [hfound]
  | false =>
    rw [if_neg Bool.false_ne_true, find?_override]
    cases himpl : m.implements slot with
    | false => simp
    | true =>
      have hslot : m.slot = slot := Method.slot_of_implements himpl
      have hnone : t.find? slot = none := by
        simpa [Assoc.contains, hslot] using hcontains
      simp [hnone]

/-- Of methods that override one after the other, the last one that implements a slot counts. -/
theorem find?_foldl_override (t : DispatchTable) (ms : List Method) :
    (ms.foldl DispatchTable.override t).find? slot =
      ((ms.filter (·.implements slot)).getLast?.bind Method.implementation?).or (t.find? slot) := by
  induction ms using List.reverseRecOn with
  | nil => rfl
  | append_singleton ms m ih =>
    rw [List.foldl_append, List.foldl_cons, List.foldl_nil, find?_override, ih, List.filter_append]
    cases himpl : m.implements slot with
    | false => simp [himpl]
    | true =>
      obtain ⟨body, hbody⟩ := Method.exists_body?_of_implements himpl
      simp [himpl, Method.implementation?, hbody]

/-- Of methods that complete a table one after the other, the first one that implements a slot
counts, where nothing was found before. -/
theorem find?_foldl_complete (t : DispatchTable) (ms : List Method) :
    (ms.foldl DispatchTable.complete t).find? slot =
      (t.find? slot).or ((ms.find? (·.implements slot)).bind Method.implementation?) := by
  induction ms generalizing t with
  | nil => simp
  | cons m ms ih =>
    rw [List.foldl_cons, ih, find?_complete, Option.or_assoc, List.find?_cons]
    cases himpl : m.implements slot with
    | false => simp
    | true =>
      obtain ⟨body, hbody⟩ := Method.exists_body?_of_implements himpl
      simp [Method.implementation?, hbody]

end DispatchTable

/-! ### Linked registries -/

/-- The last declared method of a class that implements a slot. -/
def ClassInfo.lastFor? (c : ClassInfo) (slot : MethodSlot) : Option Method :=
  (c.methods.filter (·.implements slot)).getLast?

namespace ClassInfo

variable {c : ClassInfo} {slot : MethodSlot} {m : Method}

theorem implements_of_lastFor? (hlast : c.lastFor? slot = some m) : m.implements slot = true :=
  (List.mem_filter.1 (List.mem_of_getLast? hlast)).2

/-- There is no last method for a slot if no method of the class implements it. -/
theorem lastFor?_eq_none_iff :
    c.lastFor? slot = none ↔ ∀ m ∈ c.methods, m.implements slot = false := by
  simp [lastFor?]

end ClassInfo

namespace Registry

variable {r r' : Registry} {c : ClassInfo} {d : ClassDraft}

/-- The dispatch table that a class has from its superclass. -/
def inheritedDispatch (r : Registry) (c : ClassInfo) : DispatchTable :=
  (((c.superclass.bind Ty.rawClass?).bind r.class?).map (·.layout.dispatch)).getD .empty

/-- The dispatch table that a class would be given now. -/
def dispatchOf (r : Registry) (c : ClassInfo) : DispatchTable :=
  (r.offered c).foldl DispatchTable.complete
    (c.methods.foldl DispatchTable.override (r.inheritedDispatch c))

/-- Every class has the dispatch table that it would be given now. -/
def Linked (r : Registry) : Prop :=
  ∀ id c, r.class? id = some c → c.layout.dispatch = r.dispatchOf c

/-- What is found under a slot is the last of the class's own methods that implements it, or else
what the superclass has, or else the first method that interfaces offer. -/
theorem find?_dispatchOf (r : Registry) (c : ClassInfo) (slot : MethodSlot) :
    (r.dispatchOf c).find? slot =
      (((c.lastFor? slot).bind Method.implementation?).or ((r.inheritedDispatch c).find? slot)).or
        (((r.offered c).find? (·.implements slot)).bind Method.implementation?) := by
  rw [dispatchOf, DispatchTable.find?_foldl_complete, DispatchTable.find?_foldl_override,
    ClassInfo.lastFor?]

/-- Methods that implement a slot make an entry of a dispatch table. -/
theorem bind_implementation?_eq_none_iff {slot : MethodSlot} {found : Option Method}
    (himpl : ∀ m ∈ found, m.implements slot = true) :
    found.bind Method.implementation? = none ↔ found = none := by
  cases found with
  | none => simp
  | some m =>
    obtain ⟨body, hbody⟩ := Method.exists_body?_of_implements (himpl m rfl)
    simp [Method.implementation?, hbody]

/-- Nothing is found under a slot if neither a method of the class implements it, nor the superclass
has anything there, nor an interface offers a method that does. -/
theorem find?_dispatchOf_eq_none_iff {slot : MethodSlot} :
    (r.dispatchOf c).find? slot = none ↔ (∀ m ∈ c.methods, m.implements slot = false) ∧
      (r.inheritedDispatch c).find? slot = none ∧
        ∀ m ∈ r.offered c, m.implements slot = false := by
  have hlast : (c.lastFor? slot).bind Method.implementation? = none ↔
      ∀ m ∈ c.methods, m.implements slot = false := by
    rw [bind_implementation?_eq_none_iff fun m hm => ClassInfo.implements_of_lastFor? hm]
    exact ClassInfo.lastFor?_eq_none_iff
  have hfirst : ((r.offered c).find? (·.implements slot)).bind Method.implementation? = none ↔
      ∀ m ∈ r.offered c, m.implements slot = false := by
    rw [bind_implementation?_eq_none_iff fun m hm => List.find?_some hm]
    simp
  rw [find?_dispatchOf, Option.or_eq_none_iff, Option.or_eq_none_iff, hlast, hfirst, and_assoc]

/-- A class whose supertypes are registered would be given the same table in a later registry. -/
theorem Extends.dispatchOf_eq (hextends : r.Extends r') (hr : r.WellFormed)
    (hsuperclass : ∀ ty ∈ c.superclass, r.AcceptsSuperclass ty)
    (hinterfaces : ∀ ty ∈ c.interfaces, r.AcceptsInterface ty) :
    r'.dispatchOf c = r.dispatchOf c := by
  have hinherited : r'.inheritedDispatch c = r.inheritedDispatch c := by
    have hsame := hextends.superclassInfo?_eq hsuperclass
    rw [superclassInfo?, superclassInfo?] at hsame
    rw [inheritedDispatch, inheritedDispatch, hsame]
  have hoffered : r'.offered c = r.offered c := by
    unfold offered
    apply List.flatMap_congr
    intro raw hmem
    obtain ⟨ty, hty, hraw⟩ := List.mem_filterMap.1 hmem
    obtain ⟨raw', parent, hraw', hparent⟩ := (hinterfaces ty hty).exists_class
    cases hraw.symm.trans hraw'
    exact hextends.interfaceMethods_eq hr hparent
  rw [dispatchOf, dispatchOf, hinherited, hoffered]

/-- A class that is in a linked registry is still linked in a later one. -/
theorem Linked.dispatch_eq (hlinked : r.Linked) (hr : r.WellFormed) (hextends : r.Extends r')
    {id : ClassId} (hc : r.class? id = some c) : c.layout.dispatch = r'.dispatchOf c := by
  rw [hlinked id c hc]
  exact (hextends.dispatchOf_eq hr (fun ty hty => (hr.superclass hc ty hty).2)
    (hr.interfaces hc)).symm

/-- A registration keeps the registry linked. -/
theorem Linked.install (hlinked : r.Linked) (hr : r.WellFormed)
    (hslot : r.slots[d.id.index]? = some none) (hfault : r.hierarchyFault? d = none) :
    (r.install d).Linked := by
  obtain ⟨hsuperclass, hinterfaces⟩ := hierarchyFault?_eq_none_iff.1 hfault
  have hextends : r.Extends (r.install d) := extends_install hslot
  intro id c hc
  rcases class?_install_cases (lt_length_of_slot hslot) hc with ⟨-, rfl⟩ | ⟨-, hc⟩
  · have hmade : (r.define d).layout.dispatch = r.dispatchOf (r.define d) := rfl
    rw [hmade]
    exact (hextends.dispatchOf_eq hr (fun ty hty => (hsuperclass ty hty).2) hinterfaces).symm
  · exact hlinked.dispatch_eq hr hextends hc

/-- Every reachable registry is linked. -/
theorem Reachable.linked (h : r.Reachable) : r.Linked := by
  refine h.registration_induction ?vacant ?reserve ?install
  case vacant =>
    intro id c hc
    rw [class?_vacant] at hc
    cases hc
  case reserve =>
    intro r name kind hr hlinked id c hc
    rw [class?_reserve] at hc
    exact hlinked.dispatch_eq hr (fun id c hc => (class?_reserve r name kind id).trans hc) hc
  case install => exact fun hr hlinked hslot _ hfault => hlinked.install hr hslot hfault

end Registry

end Introspection
