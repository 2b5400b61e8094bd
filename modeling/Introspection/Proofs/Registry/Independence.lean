import Introspection.Metadata.Build
import Introspection.Proofs.Registry.Interfaces

/-!
# Registrations that do not depend on each other

Two drafts for which different places of one registry have been reserved, and neither of which names
the class of the other one as a supertype, can be registered in either order.  Each of them has the
same outcome, be it success or an error, and the two registries that come out give the same answers
(`Registry.SameAnswers`): only the order in which names have come into the index may differ, and
nothing looks at that.

A registration reads its own place, its own name, and what its supertypes lead to
(`register_install`).  The class that is made is the same in a later registry, because all that the
supertypes lead to has been registered before (`Extends.define_eq`).

`registration_comm` is the main statement.
-/

namespace Introspection

/-- Different classes have different places. -/
theorem ClassId.index_ne {a b : ClassId} (hne : a ≠ b) : a.index ≠ b.index :=
  fun heq => hne (congrArg ClassId.mk heq)

/-! ### Reservations -/

/-- The draft names the class as its superclass or as one of its interfaces. -/
def ClassDraft.Names (d : ClassDraft) (id : ClassId) : Prop :=
  id ∈ (d.superclass.toList ++ d.interfaces).filterMap Ty.rawClass?

instance (d : ClassDraft) (id : ClassId) : Decidable (d.Names id) :=
  inferInstanceAs (Decidable (id ∈ _))

theorem ClassDraft.names_of_mem {d : ClassDraft} {id : ClassId} {ty : Ty}
    (hty : ty ∈ d.superclass ∨ ty ∈ d.interfaces) (hraw : ty.rawClass? = some id) : d.Names id := by
  refine List.mem_filterMap.2 ⟨ty, List.mem_append.2 ?_, hraw⟩
  exact hty.imp_left Option.mem_toList.2

namespace Registry

variable {r r' : Registry} {d d' : ClassDraft} {calls : List RegistryCall}

/-- The draft has been described from what one of the calls has returned, which has reserved a place
for a class of this name and kind. -/
structure ReservedBy (calls : List RegistryCall) (d : ClassDraft) : Prop where
  /-- The draft has been described step by step. -/
  described : d.Described
  /-- One of the calls has reserved its place, the one behind all places that there were then. -/
  exists_reserve : ∃ i : Nat, calls[i]? = some (.reserve d.name d.kind) ∧
    d.id.index = ((calls.take i).foldl after initial).slots.length

/-- No call takes a place away. -/
theorem length_slots_le_after (r : Registry) (call : RegistryCall) :
    r.slots.length ≤ (r.after call).slots.length := by
  cases call with
  | reserve name kind => simp [after, reserve]
  | register d =>
    cases hok : r.register d with
    | error e => exact Nat.le_of_eq (by rw [after_register_of_eq_error hok])
    | ok r' =>
      obtain ⟨-, -, -, rfl⟩ := register_eq_ok_iff.1 hok
      rw [after_register_of_eq_ok hok]
      simp [install]

theorem length_slots_le_foldl_after (r : Registry) (calls : List RegistryCall) :
    r.slots.length ≤ (calls.foldl after r).slots.length := by
  induction calls generalizing r with
  | nil => exact Nat.le_refl _
  | cons call calls ih => exact Nat.le_trans (length_slots_le_after r call) (ih _)

/-- A place that has been reserved is not reserved again. -/
theorem length_slots_lt_of_reserve {i j : Nat} {name : String} {kind : ClassKind}
    (hreserve : calls[i]? = some (.reserve name kind)) (hlt : i < j) :
    ((calls.take i).foldl after initial).slots.length <
      ((calls.take j).foldl after initial).slots.length := by
  obtain ⟨hi, hcall⟩ := List.getElem?_eq_some_iff.1 hreserve
  -- the first `j` calls are the first `i` ones, the reservation, and others
  have hsplit := List.take_append_drop (i + 1) (calls.take j)
  rw [List.take_take, Nat.min_eq_left (show i + 1 ≤ j from hlt)] at hsplit
  have hfirst : ((calls.take (i + 1)).foldl after initial).slots.length =
      ((calls.take i).foldl after initial).slots.length + 1 := by
    rw [List.take_succ_eq_append_getElem hi, List.foldl_append, hcall]
    simp [after, reserve]
  have hrest := length_slots_le_foldl_after ((calls.take (i + 1)).foldl after initial)
    ((calls.take j).drop (i + 1))
  rw [← hsplit, List.foldl_append]
  omega

/-- Drafts of different names have different places. -/
theorem ReservedBy.id_ne (hd : ReservedBy calls d) (hd' : ReservedBy calls d')
    (hname : d.name ≠ d'.name) : d.id ≠ d'.id := by
  obtain ⟨i, hcall, hplace⟩ := hd.exists_reserve
  obtain ⟨j, hcall', hplace'⟩ := hd'.exists_reserve
  intro heq
  rw [heq, hplace'] at hplace
  rcases Nat.lt_trichotomy i j with hlt | rfl | hgt
  · have := length_slots_lt_of_reserve hcall hlt
    omega
  · rw [hcall] at hcall'
    exact hname (RegistryCall.reserve.inj (Option.some.inj hcall')).1
  · have := length_slots_lt_of_reserve hcall' hgt
    omega

/-! ### What a registration reads -/

/-- Away from its own place an installation changes no class. -/
theorem class?_install_of_ne {id : ClassId} (hslot : r.slots[d.id.index]? = some none)
    (hne : id ≠ d.id) : (r.install d).class? id = r.class? id := by
  rw [class?_install r d id (lt_length_of_slot hslot), if_neg hne]

/-- The supertypes of a draft have the same faults as long as the classes that it names are the
same. -/
theorem hierarchyFault?_congr (hclass : ∀ id, d.Names id → r'.class? id = r.class? id) :
    r'.hierarchyFault? d = r.hierarchyFault? d := by
  have hsuper : r'.superclassFault? d = r.superclassFault? d := by
    unfold superclassFault?
    cases hsuperclass : d.superclass with
    | none => rfl
    | some ty =>
      cases hraw : ty.rawClass? with
      | none => simp [hraw]
      | some raw => simp [hraw, hclass raw (ClassDraft.names_of_mem (.inl hsuperclass) hraw)]
  have hinterface : ∀ ty ∈ d.interfaces, r'.interfaceFault? ty = r.interfaceFault? ty := by
    intro ty hty
    unfold interfaceFault?
    cases hraw : ty.rawClass? with
    | none => rfl
    | some raw => simp [hclass raw (ClassDraft.names_of_mem (.inr hty) hraw)]
  have hinterfaces : d.interfaces.findSome? r'.interfaceFault? =
      d.interfaces.findSome? r.interfaceFault? := by
    have hmap := congrArg (List.findSome? id) (List.map_congr_left hinterface)
    simpa only [List.findSome?_map, Function.id_comp] using hmap
  rw [hierarchyFault?, hierarchyFault?, hsuper, hinterfaces]

/-- In the presence of another new class, of another name and in another place, a draft that does not
name it is registered or refused as without it. -/
theorem register_install (hslot : r.slots[d'.id.index]? = some none) (hid : d.id ≠ d'.id)
    (hname : d.name ≠ d'.name) (hfree : ¬ d.Names d'.id) :
    (r.install d').register d = (r.register d).map fun _ => (r.install d').install d := by
  have hplace : (r.install d').slots[d.id.index]? = r.slots[d.id.index]? :=
    List.getElem?_set_ne (ClassId.index_ne hid.symm)
  have hfind : (r.install d').find? d.name = r.find? d.name :=
    Assoc.find?_insert_of_ne r.names d'.id hname
  have hfault : (r.install d').hierarchyFault? d = r.hierarchyFault? d := by
    refine hierarchyFault?_congr fun id hnames => class?_install_of_ne hslot ?_
    rintro rfl
    exact hfree hnames
  unfold register
  rw [hplace, hfind, hfault]
  cases r.slots[d.id.index]? with
  | none => rfl
  | some slot =>
    cases slot with
    | some c => rfl
    | none =>
      cases r.find? d.name with
      | some id => rfl
      | none => cases r.hierarchyFault? d <;> rfl

/-- A draft without faults has the same class in a later registry. -/
theorem Extends.define_eq (hextends : r.Extends r') (hr : r.WellFormed)
    (hfault : r.hierarchyFault? d = none) : r'.define d = r.define d := by
  obtain ⟨hsuperclass, hinterfaces⟩ := hierarchyFault?_eq_none_iff.1 hfault
  have hparent : r'.parent? d = r.parent? d :=
    hextends.superclassInfo?_eq (c := r.define d) fun ty hty => (hsuperclass ty hty).2
  have hprovided : r'.providedMethods d = r.providedMethods d := by
    refine List.flatMap_congr fun id hid => ?_
    obtain ⟨ty, hty, hraw⟩ := List.mem_filterMap.1 hid
    obtain ⟨raw, c, hraw', hc⟩ := (hinterfaces ty hty).exists_class
    cases hraw.symm.trans hraw'
    exact hextends.interfaceMethods_eq hr hc
  simp only [define, methodsFor, layoutFor, slotsFor, dispatchFor, hparent, hprovided]

/-! ### Either order -/

/-- What the registration of a draft answers: the id of the class, or an error. -/
def outcome (r : Registry) (d : ClassDraft) : Except ReflectionError ClassId :=
  (r.register d).map fun _ => d.id

/-- Both registries answer alike, to questions about classes and names and when they are asked for
metadata. -/
structure SameAnswers (r r' : Registry) : Prop where
  /-- There are as many places, so the next one to be reserved is the same. -/
  length_slots_eq : r'.slots.length = r.slots.length
  /-- The same classes are registered, with the same slots and the same dispatch tables. -/
  class?_eq : ∀ id, r'.class? id = r.class? id
  /-- Names lead to the same classes. -/
  find?_eq : ∀ name, r'.find? name = r.find? name
  /-- There are as many names. -/
  size_eq : r'.size = r.size
  /-- The metadata of a class is the same, or fails to be built for the same reason. -/
  ofClass_eq : ∀ id, Metadata.ofClass r' id = Metadata.ofClass r id

/-- Well-formed registries with the same places answer alike: the index of names is determined by
them. -/
theorem WellFormed.sameAnswers (hr : r.WellFormed) (hr' : r'.WellFormed)
    (hslots : r'.slots = r.slots) : r.SameAnswers r' := by
  have hclass : ∀ id, r'.class? id = r.class? id := by
    intro id
    rw [class?, class?, hslots]
  refine ⟨congrArg List.length hslots, hclass, fun name => ?find?, ?size, fun id => ?ofClass⟩
  case find? =>
    refine Option.ext fun id => ?_
    rw [hr'.find?_iff, hr.find?_iff, hclass]
  case size => rw [hr'.size_eq, hr.size_eq, registered, registered, hslots]
  case ofClass =>
    -- metadata are built without a look at the index
    obtain ⟨slots, names⟩ := r
    obtain ⟨slots', names'⟩ := r'
    obtain rfl : slots' = slots := hslots
    rfl

theorem outcome_eq_error_iff {e : ReflectionError} :
    r.outcome d = .error e ↔ r.register d = .error e := by
  unfold outcome
  cases r.register d <;> simp [Except.map]

/-- The outcome of a registration does not depend on another one before it whose class it does not
name. -/
theorem outcome_after_register (hid : d.id ≠ d'.id) (hname : d.name ≠ d'.name)
    (hfree : ¬ d.Names d'.id) : (r.after (.register d')).outcome d = r.outcome d := by
  cases hok : r.register d' with
  | error e => rw [after_register_of_eq_error hok]
  | ok r' =>
    obtain ⟨hslot, -, -, rfl⟩ := register_eq_ok_iff.1 hok
    rw [after_register_of_eq_ok hok, outcome, outcome, register_install hslot hid hname hfree]
    cases r.register d <;> rfl

/-- A registration that fails, whether it comes first or second, leaves what the other one makes. -/
theorem after_register_comm_of_eq_error {e : ReflectionError} (herror : r.register d = .error e)
    (hid : d.id ≠ d'.id) (hname : d.name ≠ d'.name) (hfree : ¬ d.Names d'.id) :
    (r.after (.register d')).after (.register d) =
      (r.after (.register d)).after (.register d') := by
  have hlater : (r.after (.register d')).register d = .error e := by
    rw [← outcome_eq_error_iff, outcome_after_register hid hname hfree, outcome_eq_error_iff]
    exact herror
  rw [after_register_of_eq_error hlater, after_register_of_eq_error herror]

/-- Two registrations that succeed put the same classes into the same places in either order. -/
theorem slots_install_comm (hr : r.WellFormed) (hid : d.id ≠ d'.id)
    (hslot : r.slots[d.id.index]? = some none) (hslot' : r.slots[d'.id.index]? = some none)
    (hfault : r.hierarchyFault? d = none) (hfault' : r.hierarchyFault? d' = none) :
    ((r.install d').install d).slots = ((r.install d).install d').slots := by
  have hdefine : (r.install d').define d = r.define d :=
    (extends_install hslot').define_eq hr hfault
  have hdefine' : (r.install d).define d' = r.define d' :=
    (extends_install hslot).define_eq hr hfault'
  calc ((r.install d').install d).slots
      = (r.slots.set d'.id.index (some (r.define d'))).set d.id.index (some (r.define d)) := by
        rw [install, hdefine, install]
    _ = (r.slots.set d.id.index (some (r.define d))).set d'.id.index (some (r.define d')) :=
        List.set_comm _ _ (ClassId.index_ne hid.symm)
    _ = ((r.install d).install d').slots := by
        rw [install, hdefine', install]

theorem slots_after_register_comm (hr : r.WellFormed) (hid : d.id ≠ d'.id)
    (hname : d.name ≠ d'.name) (hfree : ¬ d.Names d'.id) (hfree' : ¬ d'.Names d.id) :
    ((r.after (.register d')).after (.register d)).slots =
      ((r.after (.register d)).after (.register d')).slots := by
  cases hd : r.register d with
  | error e => rw [after_register_comm_of_eq_error hd hid hname hfree]
  | ok r₁ =>
    cases hd' : r.register d' with
    | error e => rw [after_register_comm_of_eq_error hd' hid.symm hname.symm hfree']
    | ok r₂ =>
      obtain ⟨hslot, -, hfault, rfl⟩ := register_eq_ok_iff.1 hd
      obtain ⟨hslot', -, hfault', rfl⟩ := register_eq_ok_iff.1 hd'
      have hlater : (r.install d').register d = .ok ((r.install d').install d) := by
        rw [register_install hslot' hid hname hfree, hd]
        rfl
      have hlater' : (r.install d).register d' = .ok ((r.install d).install d') := by
        rw [register_install hslot hid.symm hname.symm hfree', hd']
        rfl
      rw [after_register_of_eq_ok hd', after_register_of_eq_ok hlater, after_register_of_eq_ok hd,
        after_register_of_eq_ok hlater']
      exact slots_install_comm hr hid hslot hslot' hfault hfault'

/-- Two drafts of different names for which calls have reserved places, and neither of which names
the class of the other as a supertype, can be registered in either order: each has the same outcome,
and the registries that come out answer alike. -/
theorem registration_comm (hcalls : ∀ call ∈ calls, call.Described) (hd : ReservedBy calls d)
    (hd' : ReservedBy calls d') (hname : d.name ≠ d'.name) (hfree : ¬ d.Names d'.id)
    (hfree' : ¬ d'.Names d.id) :
    let r := calls.foldl after initial
    (r.after (.register d')).outcome d = r.outcome d ∧
      (r.after (.register d)).outcome d' = r.outcome d' ∧
        ((r.after (.register d)).after (.register d')).SameAnswers
          ((r.after (.register d')).after (.register d)) := by
  intro r
  have hid : d.id ≠ d'.id := hd.id_ne hd' hname
  have hr : r.Reachable := Reachable.initial.foldl hcalls
  have hlater : ((r.after (.register d)).after (.register d')).Reachable :=
    (hr.after (.register d) hd.described).after (.register d') hd'.described
  have hlater' : ((r.after (.register d')).after (.register d)).Reachable :=
    (hr.after (.register d') hd'.described).after (.register d) hd.described
  exact ⟨outcome_after_register hid hname hfree,
    outcome_after_register hid.symm hname.symm hfree',
    hlater.wellFormed.sameAnswers hlater'.wellFormed
      (slots_after_register_comm hr.wellFormed hid hname hfree hfree')⟩

/-- The draft of an interface with a default method. -/
def dieDraft : ClassDraft :=
  (ClassDraft.ofKind ⟨7⟩ "Die" .interface).withMethod
    { MethodDraft.named "getRoll" with returnType := .ofClass ⟨3⟩, body? := some (.reads "faces") }

/-- The draft of a class that implements the interface and has a field. -/
def rolledDraft : ClassDraft :=
  ((ClassDraft.ofKind ⟨8⟩ "Rolled" .ordinary).withInterface (.ofClass ⟨7⟩)).withField
    (.named "faces" (.ofClass ⟨3⟩))

/-- The draft of another class that implements the interface. -/
def paintedDraft : ClassDraft :=
  (ClassDraft.ofKind ⟨9⟩ "Painted" .ordinary).withInterface (.ofClass ⟨7⟩)

/-- The draft of a class whose superclass is final. -/
def loadedDraft : ClassDraft :=
  (ClassDraft.ofKind ⟨10⟩ "Loaded" .ordinary).withSuperclass (.ofClass ⟨1⟩)

/-- The calls that reserve four places and register the interface. -/
def diceCalls : List RegistryCall :=
  [.reserve "Die" .interface, .reserve "Rolled" .ordinary, .reserve "Painted" .ordinary,
    .reserve "Loaded" .ordinary, .register dieDraft]

/-- Of the two classes that implement the interface both can be registered in either order, and the
class with a final superclass is refused before and after another registration. -/
theorem diceCalls_registration_comm :
    let r := diceCalls.foldl after initial
    (r.after (.register rolledDraft)).outcome paintedDraft = .ok ⟨9⟩ ∧
      ((r.after (.register rolledDraft)).after (.register paintedDraft)).SameAnswers
        ((r.after (.register paintedDraft)).after (.register rolledDraft)) ∧
      (r.after (.register rolledDraft)).outcome loadedDraft =
        .error (.invalidHierarchy "Loaded" (.superclassIsFinal "String")) := by
  intro r
  have hcalls : ∀ call ∈ diceCalls, call.Described := by decide
  have hrolled : ReservedBy diceCalls rolledDraft := ⟨by decide, 1, rfl, rfl⟩
  have hpainted : ReservedBy diceCalls paintedDraft := ⟨by decide, 2, rfl, rfl⟩
  have hloaded : ReservedBy diceCalls loadedDraft := ⟨by decide, 3, rfl, rfl⟩
  have haccepted : r.outcome paintedDraft = .ok ⟨9⟩ := rfl
  have hrefused : r.outcome loadedDraft =
      .error (.invalidHierarchy "Loaded" (.superclassIsFinal "String")) := rfl
  obtain ⟨-, hafter, hsame⟩ := registration_comm hcalls hrolled hpainted (by decide) (by decide)
    (by decide)
  obtain ⟨-, hafter', -⟩ := registration_comm hcalls hrolled hloaded (by decide) (by decide)
    (by decide)
  exact ⟨hafter.trans haccepted, hsame, hafter'.trans hrefused⟩

end Registry

end Introspection
