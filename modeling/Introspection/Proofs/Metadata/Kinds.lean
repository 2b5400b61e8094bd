import Introspection.Proofs.Metadata.Origin

/-!
# Kinds of members

A member knows its kind, which is that of the list in which its class declares it
(`Registry.WellKinded`).  So an accessor of a field and one of a method never share a member, and
neither shares one with a constructor (`Metadata.wellKinded_of_ofClass`).
-/

namespace Introspection

/-- The accessor uses a member of the kind it is made for. -/
def Accessor.WellKinded : Accessor → Prop
  | method m => m.id.kind = .method
  | readField f => f.id.kind = .field
  | writeField f => f.id.kind = .field
  | ambiguous m _ => m.id.kind = .method

/-- Accessors and the constructor are those of members of the right kind. -/
structure Metadata.WellKinded (m : Metadata) : Prop where
  /-- So are the accessors. -/
  accessor : ∀ {direction name a}, (m.towards direction).accessors.find? name = some a →
    a.WellKinded
  /-- So is the constructor. -/
  constructor : ∀ {c}, m.defaultConstructor? = some c → c.id.kind = .constructor

namespace Registry

variable {r r' : Registry}

/-- The members of all registered classes are of the kind as which they are declared. -/
structure WellKinded (r : Registry) : Prop where
  /-- Fields are declared as fields. -/
  field : ∀ {id c f}, r.class? id = some c → f ∈ c.fields → f.id.kind = .field
  /-- Methods are declared as methods. -/
  method : ∀ {id c m}, r.class? id = some c → m ∈ c.methods → m.id.kind = .method
  /-- Constructors are declared as constructors. -/
  constructor : ∀ {id c k}, r.class? id = some c → k ∈ c.constructors → k.id.kind = .constructor

/-- A class is defined with members of the right kinds. -/
theorem WellKinded.install {d : ClassDraft} (hr : r.WellKinded)
    (hd : d.id.index < r.slots.length) : (r.install d).WellKinded := by
  refine ⟨fun hc hf => ?_, fun hc hm => ?_, fun hc hk => ?_⟩
  · rcases class?_install_cases hd hc with ⟨-, rfl⟩ | ⟨-, hc⟩
    · obtain ⟨i, hi, rfl⟩ := List.mem_mapIdx.1 hf
      rfl
    · exact hr.field hc hf
  · rcases class?_install_cases hd hc with ⟨-, rfl⟩ | ⟨-, hc⟩
    · obtain ⟨i, hi, rfl⟩ := List.mem_mapIdx.1 hm
      rfl
    · exact hr.method hc hm
  · rcases class?_install_cases hd hc with ⟨-, rfl⟩ | ⟨-, hc⟩
    · obtain ⟨i, hi, rfl⟩ := List.mem_mapIdx.1 hk
      rfl
    · exact hr.constructor hc hk

/-- Calls preserve the kinds of members. -/
theorem WellKinded.after (hr : r.WellKinded) (call : RegistryCall) :
    (r.after call).WellKinded := by
  cases call with
  | reserve name kind =>
    have hclass : ∀ id, (r.after (.reserve name kind)).class? id = r.class? id :=
      fun id => class?_reserve r name kind id
    exact ⟨fun hc => hr.field (hclass _ ▸ hc), fun hc => hr.method (hclass _ ▸ hc),
      fun hc => hr.constructor (hclass _ ▸ hc)⟩
  | register d =>
    cases hregister : r.register d with
    | error e => rwa [after_register_of_eq_error hregister]
    | ok r' =>
      obtain ⟨hslot, -, -, rfl⟩ := register_eq_ok_iff.1 hregister
      rw [after_register_of_eq_ok hregister]
      exact hr.install (lt_length_of_slot hslot)

/-- The members of the first classes are of the right kinds. -/
theorem wellKinded_initial : initial.WellKinded := by
  refine Except.foldlM_eq_ok_induction foldlM_register_initialDrafts ?_ ?_
  · constructor <;> intro id c _ hc _ <;> rw [class?_vacant] at hc <;> cases hc
  · intro d _ r r' hr hregister
    obtain ⟨hslot, -, -, rfl⟩ := register_eq_ok_iff.1 hregister
    exact hr.install (lt_length_of_slot hslot)

end Registry

/-- What comes from methods and fields of the right kinds is of the right kind. -/
theorem Property.ComesFrom.wellKinded {o : Origin} {direction : Direction} {name : String}
    {p : Property} (hp : Property.ComesFrom o direction name p)
    (hmethods : ∀ m ∈ o.methods, m.id.kind = .method)
    (hfields : ∀ f ∈ o.fields, f.id.kind = .field) : p.accessor.WellKinded := by
  cases hp with
  | @method m a type hm hprovides ha htype =>
    have hkind := hmethods m hm
    cases a <;> cases ha <;> exact hkind
  | @field f type hf hprovides htype =>
    have hkind := hfields f hf
    cases direction <;> exact hkind

/-- The accessors in the metadata of a class use members of the right kinds. -/
theorem Metadata.wellKinded_of_ofClass {r : Registry} (hr : r.WellKinded) {id : ClassId}
    {m : Metadata} (hok : Metadata.ofClass r id = .ok m) : m.WellKinded := by
  obtain ⟨c, methods, fields, hc, hmethods, hfields, hshow, hconstructor⟩ :=
    Metadata.exists_origin hok
  have hmethod : ∀ m ∈ methods, m.id.kind = .method := by
    intro m hm
    obtain ⟨owner, c', hc', hmem⟩ := Registry.exists_declares_of_mem_collectedMethods hmethods hm
    exact hr.method hc' hmem
  have hfield : ∀ f ∈ fields, f.id.kind = .field := by
    intro f hf
    cases hrecord : c.isRecord with
    | true =>
      rw [hrecord, if_pos rfl] at hfields
      rw [hfields] at hf
      cases hf
    | false =>
      rw [hrecord, if_neg Bool.false_ne_true] at hfields
      obtain ⟨owner, -, c', hc', hmem⟩ := (Registry.mem_chainFields_iff hfields).1 hf
      exact hr.field hc' hmem
  refine ⟨fun {direction name a} ha => ?_, fun {k} hk => ?_⟩
  · cases direction with
    | get =>
      obtain ⟨type, -, hp⟩ := hshow.1.holds.exists_type ha
      exact hp.wellKinded hmethod hfield
    | set =>
      obtain ⟨type, -, hp⟩ := hshow.2.holds.exists_type ha
      exact hp.wellKinded hmethod hfield
  · rw [hconstructor] at hk
    exact hr.constructor hc (List.mem_of_find?_eq_some hk)

end Introspection
