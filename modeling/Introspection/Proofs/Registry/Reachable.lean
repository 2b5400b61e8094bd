import Introspection.Proofs.Registry.Drafts
import Introspection.Registry.Registration

/-!
# Reachable registries

A registry is reachable if a sequence of calls leads to it from the registry with the first classes
alone.  Each call reserves a place or registers a draft; a call that fails leaves the registry as it
is.  The drafts are those that can be described step by step from a reserved place, be it a place
of this registry or of another one (`ClassDraft.Described`).

`register_eq_ok_iff` says all that a successful registration can do, and
`hierarchyFault?_eq_none_iff` what it has checked about the supertypes.  `Extends` compares a
registry with a later one.
-/

namespace Introspection

/-! ### Calls -/

/-- A call that may change a registry. -/
inductive RegistryCall where
  /-- Makes room for a class. -/
  | reserve (name : String) (kind : ClassKind)
  /-- Registers the class of a draft. -/
  | register (d : ClassDraft)

/-- A call whose draft, if it has one, has been described step by step. -/
def RegistryCall.Described : RegistryCall → Prop
  | reserve _ _ => True
  | register d => d.Described

instance : DecidablePred RegistryCall.Described
  | .reserve _ _ => .isTrue trivial
  | .register d => inferInstanceAs (Decidable d.Described)

namespace Registry

variable {r r' : Registry} {d : ClassDraft}

/-- The registry after a call; a call that fails leaves it as it was. -/
def after (r : Registry) : RegistryCall → Registry
  | .reserve name kind => (r.reserve name kind).2
  | .register d =>
    match r.register d with
    | .ok r' => r'
    | .error _ => r

/-- A registry to which calls lead from the one with the first classes alone. -/
inductive Reachable : Registry → Prop where
  /-- The registry with the first classes alone. -/
  | initial : Reachable .initial
  /-- The registry after one more call. -/
  | after {r : Registry} (h : Reachable r) (call : RegistryCall) (hcall : call.Described) :
    Reachable (r.after call)

/-- Further calls lead from a reachable registry to a reachable one. -/
theorem Reachable.foldl {calls : List RegistryCall} (h : r.Reachable)
    (hcalls : ∀ call ∈ calls, call.Described) : (calls.foldl Registry.after r).Reachable := by
  induction calls generalizing r with
  | nil => exact h
  | cons call calls ih =>
    exact ih (h.after call (hcalls call List.mem_cons_self))
      fun next hnext => hcalls next (List.mem_cons_of_mem _ hnext)

/-- The calls that reserve a place for each of some drafts and then register them. -/
def definitionCalls (drafts : List ClassDraft) : List RegistryCall :=
  drafts.map (fun d => .reserve d.name d.kind) ++ drafts.map .register

theorem reachable_definitionCalls {drafts : List ClassDraft}
    (hdrafts : ∀ d ∈ drafts, d.Described) :
    ((definitionCalls drafts).foldl Registry.after .initial).Reachable := by
  refine Reachable.initial.foldl fun call hcall => ?_
  rcases List.mem_append.1 hcall with hreserve | hregister
  · obtain ⟨d, -, rfl⟩ := List.mem_map.1 hreserve
    trivial
  · obtain ⟨d, hd, rfl⟩ := List.mem_map.1 hregister
    exact hdrafts d hd

theorem after_register_of_eq_ok (hok : r.register d = .ok r') : r.after (.register d) = r' := by
  simp [after, hok]

theorem after_register_of_eq_error {e : ReflectionError} (herror : r.register d = .error e) :
    r.after (.register d) = r := by
  simp [after, herror]

/-! ### What a registration does -/

/-- The type names a registered class that may be extended: no interface and not final. -/
def AcceptsSuperclass (r : Registry) (ty : Ty) : Prop :=
  ∃ raw parent, ty.rawClass? = some raw ∧ r.class? raw = some parent ∧
    parent.isInterface = false ∧ parent.modifiers.isFinal = false

/-- The type names a registered interface. -/
def AcceptsInterface (r : Registry) (ty : Ty) : Prop :=
  ∃ raw parent, ty.rawClass? = some raw ∧ r.class? raw = some parent ∧ parent.isInterface = true

/-- A draft passes the check of its superclass if it is not one of an interface and its superclass
may be extended, or if it has no superclass. -/
theorem superclassFault?_eq_none_iff :
    r.superclassFault? d = none ↔
      ∀ ty ∈ d.superclass, d.isInterface = false ∧ r.AcceptsSuperclass ty := by
  unfold superclassFault? AcceptsSuperclass
  cases d.superclass with
  | none => simp
  | some ty =>
    cases hinterface : d.isInterface with
    | true => simp
    | false =>
      cases hraw : ty.rawClass? with
      | none => simp [hraw]
      | some raw =>
        cases hparent : r.class? raw with
        | none => simp [hraw, hparent]
        | some parent =>
          cases hkind : parent.isInterface <;> cases hfinal : parent.modifiers.isFinal <;>
            simp [hraw, hparent, hkind, hfinal]

/-- A type passes the check of an interface if it names a registered one. -/
theorem interfaceFault?_eq_none_iff {ty : Ty} :
    r.interfaceFault? ty = none ↔ r.AcceptsInterface ty := by
  unfold interfaceFault? AcceptsInterface
  cases hraw : ty.rawClass? with
  | none => simp
  | some raw =>
    cases hparent : r.class? raw with
    | none => simp [hparent]
    | some parent => cases hkind : parent.isInterface <;> simp [hparent, hkind]

/-- What has been checked about the supertypes of a draft without a fault. -/
theorem hierarchyFault?_eq_none_iff :
    r.hierarchyFault? d = none ↔
      (∀ ty ∈ d.superclass, d.isInterface = false ∧ r.AcceptsSuperclass ty) ∧
        ∀ ty ∈ d.interfaces, r.AcceptsInterface ty := by
  simp only [hierarchyFault?, Option.or_eq_none_iff, superclassFault?_eq_none_iff,
    List.findSome?_eq_none_iff, interfaceFault?_eq_none_iff]

/-- A registration succeeds exactly if the place is reserved and free, the name is new and the
supertypes are not at fault, and then it puts the class of the draft in its place. -/
theorem register_eq_ok_iff :
    r.register d = .ok r' ↔
      r.slots[d.id.index]? = some none ∧ r.find? d.name = none ∧ r.hierarchyFault? d = none ∧
        r' = r.install d := by
  unfold register
  cases hslot : r.slots[d.id.index]? with
  | none => simp
  | some slot =>
    cases slot with
    | some c => simp
    | none =>
      cases hname : r.find? d.name with
      | some id => simp
      | none =>
        cases hfault : r.hierarchyFault? d with
        | some fault => simp
        | none => simp [eq_comm]

/-- A free place holds no class. -/
theorem class?_eq_none_of_slot {id : ClassId} (hslot : r.slots[id.index]? = some none) :
    r.class? id = none := by
  simp [class?, hslot]

theorem class?_of_classInfo_eq_ok {id : ClassId} {c : ClassInfo} (hok : r.classInfo id = .ok c) :
    r.class? id = some c := by
  unfold classInfo at hok
  split at hok
  · next hc =>
    cases hok
    exact hc
  · cases hok

/-- A place with an entry is a place of the table. -/
theorem lt_length_of_slot {i : Nat} {slot : Option ClassInfo} (hslot : r.slots[i]? = some slot) :
    i < r.slots.length :=
  (List.getElem?_eq_some_iff.1 hslot).1

/-- A class that is registered after an installation is the new one or was registered before. -/
theorem class?_install_cases {id : ClassId} {c : ClassInfo} (hd : d.id.index < r.slots.length)
    (hc : (r.install d).class? id = some c) :
    id = d.id ∧ c = r.define d ∨ id ≠ d.id ∧ r.class? id = some c := by
  rw [class?_install r d id hd] at hc
  split at hc
  · next heq => exact .inl ⟨heq, (Option.some.inj hc).symm⟩
  · next hne => exact .inr ⟨hne, hc⟩

/-- The hierarchy declares of a class what is registered about it. -/
theorem declaration_hierarchy (r : Registry) (id : ClassId) :
    r.hierarchy.declaration id = declarationOf (r.class? id) := by
  simp only [Hierarchy.declaration, hierarchy, class?, List.getElem?_map]
  cases r.slots[id.index]? with
  | none => rfl
  | some slot => cases slot <;> rfl

/-! ### Later registries -/

/-- Every class of the first registry is registered in the second one, unchanged. -/
def Extends (r r' : Registry) : Prop :=
  ∀ id c, r.class? id = some c → r'.class? id = some c

/-- A registration changes no class that has been registered before. -/
theorem extends_install (hslot : r.slots[d.id.index]? = some none) : r.Extends (r.install d) := by
  intro id c hc
  have hne : id ≠ d.id := by
    rintro rfl
    rw [class?_eq_none_of_slot hslot] at hc
    cases hc
  rw [class?_install r d id (lt_length_of_slot hslot), if_neg hne, hc]

/-- No call changes a class that has been registered before. -/
theorem extends_after (r : Registry) (call : RegistryCall) : r.Extends (r.after call) := by
  cases call with
  | reserve name kind =>
    intro id c hc
    rw [after, class?_reserve, hc]
  | register d =>
    cases hregister : r.register d with
    | error e =>
      rw [after_register_of_eq_error hregister]
      exact fun _ _ hc => hc
    | ok r' =>
      obtain ⟨hslot, -, -, rfl⟩ := register_eq_ok_iff.1 hregister
      rw [after_register_of_eq_ok hregister]
      exact extends_install hslot

/-- The registries that calls lead to extend the one that they start from. -/
theorem extends_foldl_after (r : Registry) (calls : List RegistryCall) :
    r.Extends (calls.foldl after r) := by
  induction calls generalizing r with
  | nil => exact fun _ _ hc => hc
  | cons call calls ih =>
    intro id c hc
    have hfirst : (r.after call).class? id = some c := extends_after r call id c hc
    exact ih (r.after call) id c hfirst

theorem AcceptsSuperclass.mono {ty : Ty} (h : r.AcceptsSuperclass ty) (hextends : r.Extends r') :
    r'.AcceptsSuperclass ty := by
  obtain ⟨raw, parent, hraw, hparent, hkind⟩ := h
  exact ⟨raw, parent, hraw, hextends raw parent hparent, hkind⟩

theorem AcceptsInterface.mono {ty : Ty} (h : r.AcceptsInterface ty) (hextends : r.Extends r') :
    r'.AcceptsInterface ty := by
  obtain ⟨raw, parent, hraw, hparent, hkind⟩ := h
  exact ⟨raw, parent, hraw, hextends raw parent hparent, hkind⟩

end Registry

end Introspection
