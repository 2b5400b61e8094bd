import Introspection.Proofs.Hierarchy.DepthFirst
import Introspection.Proofs.Registry.Definition
import Introspection.Proofs.Registry.SuperclassChain
import Mathlib.Data.List.Count
import Mathlib.Data.List.Nodup

/-!
# Layouts of registered classes

The layout of a class is made once, when the class is registered.  At any later time its slots are
the instance fields of the class followed by the slots of its superclass (`Reachable.laidOut`), so
its keys are those of the instance fields of the whole superclass chain, class by class
(`Reachable.keys_layout`).

Three consequences are drawn.  A bare name means the field of the nearest class of the chain that
declares an instance field of this name (`Reachable.keyOfName?_layout`).  A key occurs as often as
its class declares an instance field of its name (`Reachable.count_keys`).  And all keys are
different exactly if no class of the chain declares two instance fields of one name
(`Reachable.nodup_keys_iff`).
-/

namespace Introspection

/-- The declared fields that objects have a slot for. -/
def ClassInfo.instanceFields (c : ClassInfo) : List Field :=
  c.fields.filter (!·.modifiers.isStatic)

theorem ClassInfo.mem_instanceFields_iff {c : ClassInfo} {f : Field} :
    f ∈ c.instanceFields ↔ f ∈ c.fields ∧ f.modifiers.isStatic = false := by
  simp [instanceFields]

namespace Registry

variable {r r' : Registry} {d : ClassDraft} {id owner : ClassId} {c : ClassInfo} {name : String}
  {key : FieldKey}

/-! ### Slots -/

/-- The slots that a class has from its superclass. -/
def inheritedSlots (r : Registry) (c : ClassInfo) : List (FieldKey × Value) :=
  ((r.superclassInfo? c).map (·.layout.slots)).getD []

/-- Every class has the slots that it would be given now. -/
def LaidOut (r : Registry) : Prop :=
  ∀ id c, r.class? id = some c → c.layout.slots = Layout.slotsOf c.fields (r.inheritedSlots c)

/-- A class that is in a registry with its slots has them in a later one. -/
theorem LaidOut.slots_eq (hlaid : r.LaidOut) (hr : r.WellFormed) (hextends : r.Extends r')
    (hc : r.class? id = some c) :
    c.layout.slots = Layout.slotsOf c.fields (r'.inheritedSlots c) := by
  rw [hlaid id c hc, inheritedSlots, inheritedSlots,
    hextends.superclassInfo?_eq fun ty hty => (hr.superclass hc ty hty).2]

/-- A registration gives the new class its slots. -/
theorem LaidOut.install (hlaid : r.LaidOut) (hr : r.WellFormed)
    (hslot : r.slots[d.id.index]? = some none) (hfault : r.hierarchyFault? d = none) :
    (r.install d).LaidOut := by
  obtain ⟨hsuperclass, -⟩ := hierarchyFault?_eq_none_iff.1 hfault
  have hextends : r.Extends (r.install d) := extends_install hslot
  intro id c hc
  rcases class?_install_cases (lt_length_of_slot hslot) hc with ⟨-, rfl⟩ | ⟨-, hc⟩
  · have hmade : (r.define d).layout.slots =
        Layout.slotsOf (r.define d).fields (r.inheritedSlots (r.define d)) := rfl
    rw [hmade, inheritedSlots, inheritedSlots,
      hextends.superclassInfo?_eq fun ty hty => (hsuperclass ty hty).2]
  · exact hlaid.slots_eq hr hextends hc

/-- In every reachable registry the slots of a class are its own instance fields followed by the
slots of its superclass. -/
theorem Reachable.laidOut (h : r.Reachable) : r.LaidOut := by
  refine h.registration_induction ?vacant ?reserve ?install
  case vacant =>
    intro id c hc
    rw [class?_vacant] at hc
    cases hc
  case reserve =>
    intro r name kind hr hlaid id c hc
    rw [class?_reserve] at hc
    exact hlaid.slots_eq hr (fun id c hc => (class?_reserve r name kind id).trans hc) hc
  case install => exact fun hr hlaid hslot _ hfault => hlaid.install hr hslot hfault

/-- The keys of a class are those of its own instance fields followed by the keys of its
superclass. -/
theorem Reachable.keys_eq (h : r.Reachable) (hc : r.class? id = some c) :
    c.layout.keys = c.instanceFields.map Field.key ++
      ((r.superclassInfo? c).map (·.layout.keys)).getD [] := by
  rw [Layout.keys, h.laidOut id c hc, Layout.slotsOf, inheritedSlots, List.map_append, List.map_map]
  congr 1
  cases r.superclassInfo? c <;> rfl

/-! ### Keys along the superclass chain -/

/-- The keys of the instance fields that a class declares itself. -/
def ownKeys (r : Registry) (owner : ClassId) : List FieldKey :=
  ((r.class? owner).map fun c => c.instanceFields.map Field.key).getD []

theorem ownKeys_of_class? (hc : r.class? id = some c) :
    r.ownKeys id = c.instanceFields.map Field.key := by
  rw [ownKeys, hc, Option.map_some, Option.getD_some]

/-- The keys that a class declares itself have the class in them. -/
theorem Reachable.ownKeys_eq (h : r.Reachable) (hc : r.class? id = some c) :
    r.ownKeys id = c.instanceFields.map fun f => ⟨id, f.name⟩ := by
  rw [ownKeys_of_class? hc]
  refine List.map_congr_left fun f hf => ?_
  rw [Field.key, h.declaring_of_mem_fields hc (ClassInfo.mem_instanceFields_iff.1 hf).1]

theorem Reachable.owner_of_mem_ownKeys (h : r.Reachable) (hkey : key ∈ r.ownKeys id) :
    key.owner = id := by
  cases hc : r.class? id with
  | none => simp [ownKeys, hc] at hkey
  | some c =>
    rw [h.ownKeys_eq hc] at hkey
    obtain ⟨f, -, rfl⟩ := List.mem_map.1 hkey
    rfl

/-- The keys of a layout are those of all classes of the superclass chain, from the class
upwards. -/
theorem Reachable.keys_layout (h : r.Reachable) (hc : r.class? id = some c) :
    c.layout.keys = (r.superclassChain id).flatMap r.ownKeys := by
  have hr := h.wellFormed
  refine hr.superclass_induction (P := fun id c =>
    c.layout.keys = (r.superclassChain id).flatMap r.ownKeys) ?root ?step hc
  case root =>
    intro id c hc hsuper
    rw [h.keys_eq hc, hr.superclassChain_of_superclass_eq_none hc hsuper, superclassInfo?, hsuper]
    simp [ownKeys_of_class? hc]
  case step =>
    intro id c raw parent hc hsuper hparent ih
    rw [h.keys_eq hc, hr.superclassChain_of_superclass hc hsuper, List.flatMap_cons,
      ownKeys_of_class? hc, superclassInfo?, hsuper, Option.bind_some, hparent, Option.map_some,
      Option.getD_some, ih]

/-- A key of a class of the superclass chain is a key of the layout. -/
theorem Reachable.mem_keys_of_reaches (h : r.Reachable) (hc : r.class? id = some c)
    (howner : r.hierarchy.Reaches .superclass id owner) (hkey : key ∈ r.ownKeys owner) :
    key ∈ c.layout.keys := by
  rw [h.keys_layout hc]
  exact List.mem_flatMap.2 ⟨owner, mem_superclassChain_iff.2 howner, hkey⟩

/-- A class has all keys of the classes that it extends. -/
theorem Reachable.keys_subset (h : r.Reachable) (hc : r.class? id = some c) {sub : ClassId}
    {c' : ClassInfo} (hc' : r.class? sub = some c')
    (hsub : r.hierarchy.Reaches .superclass sub id) : c.layout.keys ⊆ c'.layout.keys := by
  intro key hkey
  rw [h.keys_layout hc] at hkey
  obtain ⟨owner, howner, hkey⟩ := List.mem_flatMap.1 hkey
  exact h.mem_keys_of_reaches hc' (hsub.trans (mem_superclassChain_iff.1 howner)) hkey

/-- No class occurs twice in a superclass chain. -/
theorem nodup_superclassChain (r : Registry) (id : ClassId) : (r.superclassChain id).Nodup :=
  (Hierarchy.depthFirst_iff.2 rfl).nodup_append .nil

/-! ### What a bare name means -/

/-- The nearest class of the superclass chain that declares an instance field of a name. -/
def fieldOwner? (r : Registry) (id : ClassId) (name : String) : Option ClassId :=
  (r.superclassChain id).find? fun owner =>
    (r.class? owner).any fun c => c.instanceFields.any (·.name = name)

theorem Reachable.find?_ownKeys (h : r.Reachable) (id : ClassId) (name : String) :
    (r.ownKeys id).find? (·.name == name) =
      if (r.class? id).any fun c => c.instanceFields.any (·.name = name) then some ⟨id, name⟩
      else none := by
  cases hc : r.class? id with
  | none => simp [ownKeys, hc]
  | some c =>
    rw [h.ownKeys_eq hc, Option.any_some]
    induction c.instanceFields with
    | nil => rfl
    | cons f rest ih =>
      rw [List.map_cons, List.find?_cons, ih, List.any_cons]
      by_cases hname : f.name = name
      · simp [hname]
      · rw [beq_false_of_ne hname]
        simp [hname]

/-- A bare name means the field of the nearest class of the chain that declares an instance field of
this name. -/
theorem Reachable.keyOfName?_layout (h : r.Reachable) (hc : r.class? id = some c) (name : String) :
    c.layout.keyOfName? name = (r.fieldOwner? id name).map fun owner => ⟨owner, name⟩ := by
  rw [Layout.keyOfName?, h.keys_layout hc, fieldOwner?]
  induction r.superclassChain id with
  | nil => rfl
  | cons owner rest ih =>
    rw [List.flatMap_cons, List.find?_append, h.find?_ownKeys, ih, List.find?_cons]
    split <;> simp_all

/-! ### How often a key occurs -/

/-- A key of a class of the chain occurs as often as the class declares an instance field of the
name. -/
theorem Reachable.count_keys (h : r.Reachable) (hc : r.class? id = some c)
    (howner : owner ∈ r.superclassChain id) {c' : ClassInfo} (hc' : r.class? owner = some c')
    (name : String) :
    c.layout.keys.count ⟨owner, name⟩ = (c'.instanceFields.map (·.name)).count name := by
  obtain ⟨before, after, hchain⟩ := List.append_of_mem howner
  have hnodup := r.nodup_superclassChain id
  rw [hchain] at hnodup
  have hother : ∀ {owners : List ClassId}, owner ∉ owners →
      (owners.flatMap r.ownKeys).count ⟨owner, name⟩ = 0 := by
    intro owners hnot
    refine List.count_eq_zero.2 fun hmem => hnot ?_
    obtain ⟨other, hin, hkey⟩ := List.mem_flatMap.1 hmem
    obtain rfl : owner = other := h.owner_of_mem_ownKeys hkey
    exact hin
  have hbefore : owner ∉ before := fun hin =>
    (List.nodup_append.1 hnodup).2.2 owner hin owner List.mem_cons_self rfl
  have hafter : owner ∉ after := (List.nodup_cons.1 (List.nodup_append.1 hnodup).2.1).1
  have hinjective : Function.Injective (FieldKey.mk owner) := fun _ _ heq =>
    congrArg FieldKey.name heq
  have hown : r.ownKeys owner = (c'.instanceFields.map (·.name)).map (FieldKey.mk owner) := by
    rw [h.ownKeys_eq hc', List.map_map]
    rfl
  rw [h.keys_layout hc, hchain, List.flatMap_append, List.flatMap_cons, List.count_append,
    List.count_append, hother hbefore, hother hafter, hown,
    List.count_map_of_injective _ _ hinjective, Nat.zero_add, Nat.add_zero]

/-- The keys of a layout are all different exactly if no class of the chain declares two instance
fields of one name. -/
theorem Reachable.nodup_keys_iff (h : r.Reachable) (hc : r.class? id = some c) :
    c.layout.keys.Nodup ↔ ∀ owner c', r.hierarchy.Reaches .superclass id owner →
      r.class? owner = some c' → (c'.instanceFields.map (·.name)).Nodup := by
  simp only [← mem_superclassChain_iff, List.nodup_iff_count_le_one]
  constructor
  · intro hkeys owner c' howner hc' name
    rw [← h.count_keys hc howner hc' name]
    exact hkeys _
  · intro hnames key
    by_cases hkey : key ∈ c.layout.keys
    · rw [h.keys_layout hc] at hkey
      obtain ⟨owner, howner, hkey⟩ := List.mem_flatMap.1 hkey
      obtain ⟨c', hc'⟩ := h.wellFormed.exists_class_of_mem_superclassChain hc howner
      obtain rfl := h.owner_of_mem_ownKeys hkey
      exact h.count_keys hc howner hc' key.name ▸ hnames _ c' howner hc' key.name
    · rw [List.count_eq_zero.2 hkey]
      exact Nat.zero_le 1

end Registry

end Introspection
