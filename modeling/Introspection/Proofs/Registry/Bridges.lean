import Introspection.Proofs.Registry.Dispatch

/-!
# Bridges

A bridge has the name and the parameters of the method that it stands in for, and differs from it
in what it returns.  Dispatch tables do not tell methods apart by what they return, so a bridge that
can be overridden and has a body lies in the same slot as the method, and of the methods of a class
that lie in one slot the last one counts.

`call_runs_method_or_later_bridge` says which body a method of a class runs on the objects of this
class, if no two methods of the class other than bridges lie in one slot.  It is the method's own
body unless the class declares a bridge in the same slot behind the method; bridges before it, and
those of superclasses, do not matter.
-/

namespace Introspection

/-- A private method that is not static runs its own body, if it may be used and gets as many
arguments as it has parameters. -/
theorem Method.call_eq_runBody_of_isPrivate {m : Method} (hstatic : m.modifiers.isStatic = false)
    (hprivate : m.modifiers.isPrivate = true) {body : MethodBody} (hbody : m.body? = some body)
    {s : State} {ref : ObjectRef} {args : List Value} (hpermits : s.permits m.toMember = true)
    (hargs : args.length = m.params.length) :
    m.call s (.object ref) args = s.runBody body (.object ref) args := by
  have hdispatch : m.dispatch s ref = some body := by simp [dispatch, hprivate, hbody]
  simp [call, hpermits, hargs, hstatic, hdispatch]

namespace ClassInfo

variable {c : ClassInfo} {slot : MethodSlot} {m : Method} {before after : List Method}

/-- From a method that implements a slot on, the last one that does is the last one for the slot. -/
theorem lastFor?_of_methods_eq (hmethods : c.methods = before ++ m :: after)
    (himpl : m.implements slot = true) :
    c.lastFor? slot = some ((after.filter (·.implements slot)).getLast?.getD m) := by
  rw [lastFor?, hmethods, List.filter_append, List.filter_cons_of_pos himpl, List.getLast?_append,
    List.getLast?_cons, Option.some_or]

/-- No method behind one that is no bridge lies in its slot, but for bridges. -/
theorem isBridge_of_slot_eq
    (hslots : ((c.methods.filter (!·.modifiers.isBridge)).map Method.slot).Nodup)
    (hmethods : c.methods = before ++ m :: after) (hbridge : m.modifiers.isBridge = false)
    {other : Method} (hother : other ∈ after) (hslot : other.slot = m.slot) :
    other.modifiers.isBridge = true := by
  rw [← Bool.not_eq_false]
  intro hreal
  rw [hmethods, List.filter_append, List.filter_cons_of_pos (by simp [hbridge]), List.map_append,
    List.map_cons] at hslots
  have hfresh := (List.nodup_cons.1 (List.nodup_append.1 hslots).2.1).1
  exact hfresh (List.mem_map.2 ⟨other, List.mem_filter.2 ⟨hother, by simp [hreal]⟩, hslot⟩)

/-- The last method for the slot of a method that is no bridge is this method, unless there is a
bridge for the slot behind it; then it is such a bridge. -/
theorem exists_lastFor?_eq
    (hslots : ((c.methods.filter (!·.modifiers.isBridge)).map Method.slot).Nodup)
    (hmethods : c.methods = before ++ m :: after) (hbridge : m.modifiers.isBridge = false)
    (himpl : m.implements m.slot = true) :
    ∃ k, c.lastFor? m.slot = some k ∧
      (k = m ↔ ∀ b ∈ after, b.modifiers.isBridge = true → b.implements m.slot = false) ∧
      (k ≠ m → k ∈ after ∧ k.modifiers.isBridge = true) := by
  refine ⟨_, lastFor?_of_methods_eq hmethods himpl, ?_⟩
  have hlater : ∀ b ∈ after, b.implements m.slot = true → b.modifiers.isBridge = true :=
    fun b hb hb' => isBridge_of_slot_eq hslots hmethods hbridge hb (Method.slot_of_implements hb')
  cases hend : (after.filter (·.implements m.slot)).getLast? with
  | none =>
    have hnone : ∀ b ∈ after, b.implements m.slot = false := by
      simpa using List.getLast?_eq_none_iff.1 hend
    simpa using fun b hb _ => hnone b hb
  | some last =>
    obtain ⟨hlast, hlastImpl⟩ := List.mem_filter.1 (List.mem_of_getLast? hend)
    have hlastBridge := hlater last hlast hlastImpl
    have hne : last ≠ m := by
      rintro rfl
      rw [hbridge] at hlastBridge
      cases hlastBridge
    refine ⟨⟨fun heq => absurd heq hne, fun hnone => ?_⟩, fun _ => ⟨hlast, hlastBridge⟩⟩
    rw [hnone last hlast hlastBridge] at hlastImpl
    cases hlastImpl

end ClassInfo

namespace Registry

variable {r : Registry} {id : ClassId} {c : ClassInfo}

/-- The last method of a class for a slot overrides all that its superclasses have. -/
theorem WellFormed.overriding?_of_lastFor? (hr : r.WellFormed) (hc : r.class? id = some c)
    {slot : MethodSlot} {k : Method} (hlast : c.lastFor? slot = some k) :
    r.overriding? id slot = some k := by
  rw [overriding?, hr.superclassChain_eq hc, List.findSome?_cons, hc, Option.bind_some, hlast]

/-- In a class whose methods, bridges apart, lie in different slots, a method that is neither a
bridge nor static and has a body runs, on the objects of this very class, its own body or that of a
bridge in its slot that the class declares behind it.  It runs its own body exactly if it is private
or there is no such bridge; otherwise it runs the last method of the class for the slot. -/
theorem call_runs_method_or_later_bridge (h : r.Reachable) (hc : r.class? id = some c)
    (hslots : ((c.methods.filter (!·.modifiers.isBridge)).map Method.slot).Nodup)
    {before after : List Method} {m : Method} (hmethods : c.methods = before ++ m :: after)
    (hbridge : m.modifiers.isBridge = false) (hstatic : m.modifiers.isStatic = false)
    (hbody : m.body?.isSome = true) :
    ∃ k body, k.body? = some body ∧
      (∀ s ref o args, s.heap.find? ref = some o → o.layout = c.layout →
        s.permits m.toMember = true → args.length = m.params.length →
          m.call s (.object ref) args = s.runBody body (.object ref) args) ∧
      (k = m ↔ m.modifiers.isPrivate = true ∨
        ∀ b ∈ after, b.modifiers.isBridge = true → b.implements m.slot = false) ∧
      (k ≠ m → k ∈ after ∧ k.modifiers.isBridge = true ∧ c.lastFor? m.slot = some k) := by
  obtain ⟨body, hown⟩ := Option.isSome_iff_exists.1 hbody
  cases hprivate : m.modifiers.isPrivate with
  | true =>
    refine ⟨m, body, hown, fun s ref o args _ _ hpermits hargs => ?_, by simp, by simp⟩
    exact Method.call_eq_runBody_of_isPrivate hstatic hprivate hown hpermits hargs
  | false =>
    have hvirtual : m.isVirtual = true := by simp [Method.isVirtual, hstatic, hprivate]
    have himpl : m.implements m.slot = true := by simp [Method.implements, hvirtual, hbody]
    obtain ⟨k, hlast, hiff, hother⟩ := ClassInfo.exists_lastFor?_eq hslots hmethods hbridge himpl
    have hoverriding := h.wellFormed.overriding?_of_lastFor? hc hlast
    obtain ⟨kbody, hkbody⟩ :=
      Method.exists_body?_of_implements (implements_of_overriding? hoverriding)
    have hfound : c.layout.dispatch.find? m.slot = some ⟨k.id, kbody⟩ := by
      rw [h.find?_dispatch_of_overriding? hc hoverriding, Method.implementation?, hkbody]
      rfl
    refine ⟨k, kbody, hkbody, fun s ref o args ho hlayout hpermits hargs => ?_, by simpa using hiff,
      fun hne => ⟨(hother hne).1, (hother hne).2, hlast⟩⟩
    rw [← hlayout] at hfound
    exact Method.call_eq_runBody hvirtual ho hfound hpermits hargs

/-- The draft of a getter that says who has run. -/
def valueGetter (returns : ClassId) (text : String) : MethodDraft :=
  { MethodDraft.named "getValue" with
    returnType := .ofClass returns, body? := some (sayingBody text) }

/-- The draft of a class with a method and a bridge in its slot behind it. -/
def bridgedDraft : ClassDraft :=
  ((ClassDraft.ofKind ⟨7⟩ "Bridged" .ordinary).withMethod (valueGetter ⟨1⟩ "method")).withMethod
    (valueGetter ⟨3⟩ "bridge").asBridge

/-- The draft of a class that extends the first one, with a bridge before the method. -/
def rebridgedDraft : ClassDraft :=
  (((ClassDraft.ofKind ⟨8⟩ "Rebridged" .ordinary).withSuperclass (.ofClass ⟨7⟩)).withMethod
    (valueGetter ⟨3⟩ "bridge").asBridge).withMethod (valueGetter ⟨1⟩ "method")

/-- The calls that define both classes. -/
def bridgedCalls : List RegistryCall :=
  definitionCalls [bridgedDraft, rebridgedDraft]

theorem bridgedCalls_reachable : (bridgedCalls.foldl after initial).Reachable :=
  reachable_definitionCalls (by decide)

/-- On an object of the first class the method, though it is the only one of its slot that is no
bridge, runs the body of the bridge behind it. -/
theorem bridgedCalls_runs_bridge :
    let r := bridgedCalls.foldl after initial
    r.Reachable ∧ ∃ c m body, r.class? ⟨7⟩ = some c ∧
      ((c.methods.filter (!·.modifiers.isBridge)).map Method.slot).Nodup ∧ m ∈ c.methods ∧
      m.modifiers.isBridge = false ∧ m.modifiers.isStatic = false ∧ m.body? = some body ∧
      let object := Heap.empty.allocate c.layout
      let s : State := { State.initial with heap := object.2 }
      s.permits m.toMember = true ∧ m.params.length = 0 ∧
        (m.call s (.object object.1) []).1.toOption = some (.str "bridge") ∧
        (s.runBody body (.object object.1) []).1.toOption = some (.str "method") := by
  intro r
  refine ⟨bridgedCalls_reachable, ?_⟩
  have hshown : ((r.class? ⟨7⟩).any fun c => c.methods.head?.any fun m => m.body?.any fun body =>
      let object := Heap.empty.allocate c.layout
      let s : State := { State.initial with heap := object.2 }
      decide (((c.methods.filter (!·.modifiers.isBridge)).map Method.slot).Nodup ∧
        m.modifiers.isBridge = false ∧ m.modifiers.isStatic = false) &&
      decide (s.permits m.toMember = true ∧ m.params.length = 0 ∧
        (m.call s (.object object.1) []).1.toOption = some (.str "bridge") ∧
        (s.runBody body (.object object.1) []).1.toOption = some (.str "method"))) = true := by
    decide +kernel
  obtain ⟨c, hc, hshown⟩ := (Option.any_eq_true _ _).1 hshown
  obtain ⟨m, hm, hshown⟩ := (Option.any_eq_true _ _).1 hshown
  obtain ⟨body, hbody, hshown⟩ := (Option.any_eq_true _ _).1 hshown
  obtain ⟨hmethod, hruns⟩ := Bool.and_eq_true_iff.1 hshown
  obtain ⟨hslots, hbridge, hstatic⟩ := of_decide_eq_true hmethod
  exact ⟨c, m, body, hc, hslots, List.mem_of_head? hm, hbridge, hstatic, hbody,
    of_decide_eq_true hruns⟩

/-- On objects of the second class the method runs its own body, although its superclass and the
class itself have bridges in its slot: both are declared before it. -/
theorem bridgedCalls_runs_method :
    ∃ c m body, (bridgedCalls.foldl after initial).class? ⟨8⟩ = some c ∧ m ∈ c.methods ∧
      m.modifiers.isBridge = false ∧ m.body? = some body ∧
      ∀ s ref o args, s.heap.find? ref = some o → o.layout = c.layout →
        s.permits m.toMember = true → args.length = m.params.length →
          m.call s (.object ref) args = s.runBody body (.object ref) args := by
  have hshown : (((bridgedCalls.foldl after initial).class? ⟨8⟩).any fun c =>
      decide (((c.methods.filter (!·.modifiers.isBridge)).map Method.slot).Nodup ∧
        c.methods.map (fun m => (m.modifiers.isBridge, m.modifiers.isStatic, m.body?.isSome)) =
          [(true, false, true), (false, false, true)])) = true := by decide +kernel
  obtain ⟨c, hc, hshown⟩ := (Option.any_eq_true _ _).1 hshown
  obtain ⟨hslots, hflags⟩ := of_decide_eq_true hshown
  obtain ⟨b, rest, hmethods, -, hrest⟩ := List.map_eq_cons_iff.1 hflags
  obtain ⟨m, after, rfl, hm, hafter⟩ := List.map_eq_cons_iff.1 hrest
  obtain rfl := List.map_eq_nil_iff.1 hafter
  obtain ⟨hbridge, hstatic, hbody⟩ : m.modifiers.isBridge = false ∧
      m.modifiers.isStatic = false ∧ m.body?.isSome = true := by simpa using hm
  have hsplit : c.methods = [b] ++ m :: [] := hmethods
  obtain ⟨k, body, hkbody, hruns, hiff, -⟩ := call_runs_method_or_later_bridge
    bridgedCalls_reachable hc hslots hsplit hbridge hstatic hbody
  obtain rfl : k = m := hiff.2 (.inr (by simp))
  exact ⟨c, k, body, hc, by simp [hmethods], hbridge, hkbody, hruns⟩

end Registry

end Introspection
