import Introspection.Registry.Draft
import Mathlib.Data.List.Induction

/-!
# Drafts that can be made

A draft is described step by step, from a reserved place on (`ClassDraft.Described`).  What that
leaves no choice about can be read off the draft: the type parameters are those of the class itself,
only an interface has no superclass, and the modifiers are those of the kind, with or without the
mark of an abstract class.  Every draft of which this is true can be described
(`ClassDraft.described_iff`), so it can be decided of a given draft.
-/

namespace Introspection.ClassDraft

variable {d : ClassDraft}

/-- A draft that has been described step by step from a reserved place. -/
inductive Described : ClassDraft → Prop where
  /-- A draft about which nothing is known but its place, its name and its kind. -/
  | begun (id : ClassId) (name : String) (kind : ClassKind) : Described (.ofKind id name kind)
  /-- One more type parameter. -/
  | param {d : ClassDraft} (h : Described d) (name : String) (bounds : List Ty) :
    Described (d.withParam name bounds)
  /-- Another superclass. -/
  | superclass {d : ClassDraft} (h : Described d) (ty : Ty) : Described (d.withSuperclass ty)
  /-- One more interface. -/
  | interface {d : ClassDraft} (h : Described d) (ty : Ty) : Described (d.withInterface ty)
  /-- One more field. -/
  | field {d : ClassDraft} (h : Described d) (f : FieldDraft) : Described (d.withField f)
  /-- One more method. -/
  | method {d : ClassDraft} (h : Described d) (m : MethodDraft) : Described (d.withMethod m)
  /-- One more constructor. -/
  | constructor {d : ClassDraft} (h : Described d) (c : ConstructorDraft) :
    Described (d.withConstructor c)
  /-- The mark of an abstract class. -/
  | abstract {d : ClassDraft} (h : Described d) : Described d.asAbstract

/-- The type parameters of a described draft are those of its class. -/
theorem Described.owner_of_mem_params (h : d.Described) {p : TypeVariable} (hp : p ∈ d.params) :
    p.id.owner = .classOwner d.id := by
  induction h with
  | begun id name kind => cases hp
  | param h name bounds ih =>
    rcases List.mem_append.1 hp with hp | hp
    · exact ih hp
    · rw [List.mem_singleton.1 hp]
      rfl
  | superclass h ty ih => exact ih hp
  | interface h ty ih => exact ih hp
  | field h f ih => exact ih hp
  | method h m ih => exact ih hp
  | constructor h c ih => exact ih hp
  | abstract h ih => exact ih hp

/-- Only the draft of an interface has no superclass. -/
theorem Described.kind_of_superclass_eq_none (h : d.Described) (hnone : d.superclass = none) :
    d.kind = .interface := by
  induction h with
  | begun id name kind => cases kind <;> simp_all [ofKind]
  | superclass h ty ih => simp [withSuperclass] at hnone
  | param h name bounds ih => exact ih hnone
  | interface h ty ih => exact ih hnone
  | field h f ih => exact ih hnone
  | method h m ih => exact ih hnone
  | constructor h c ih => exact ih hnone
  | abstract h ih => exact ih hnone

/-- A described draft has the modifiers of its kind, or those of an abstract class of its kind. -/
theorem Described.modifiers_eq (h : d.Described) :
    d.modifiers = (ofKind d.id d.name d.kind).modifiers ∨
      d.modifiers = (ofKind d.id d.name d.kind).asAbstract.modifiers := by
  induction h with
  | begun id name kind => exact .inl rfl
  | @abstract d h ih =>
    right
    rcases ih with heq | heq
    · exact congrArg (Modifiers.union · .abstractFlag) heq
    · have htwice : ∀ m : Modifiers, (m.union .abstractFlag).union .abstractFlag =
          m.union .abstractFlag := fun m => by
        rw [Modifiers.union, Modifiers.union, UInt16.or_assoc, UInt16.or_self]
      rw [asAbstract, heq, asAbstract, htwice]
  | param h name bounds ih => exact ih
  | superclass h ty ih => exact ih
  | interface h ty ih => exact ih
  | field h f ih => exact ih
  | method h m ih => exact ih
  | constructor h c ih => exact ih

/-- The draft of a record is final from the beginning, and stays so. -/
theorem Described.isFinal_of_record (h : d.Described) (hrecord : d.kind = .record) :
    d.modifiers.isFinal = true := by
  rcases h.modifiers_eq with heq | heq
  · rw [heq, hrecord]
    exact (by decide : (Modifiers.publicFlag.union .finalFlag).isFinal = true)
  · rw [heq, hrecord]
    exact (by decide : ((Modifiers.publicFlag.union .finalFlag).union .abstractFlag).isFinal = true)

/-- A draft can be described exactly if its type parameters are its own, it has a superclass unless
it is one of an interface, and its modifiers are those of its kind, abstract or not. -/
theorem described_iff : d.Described ↔
    (∀ p ∈ d.params, p.id.owner = .classOwner d.id) ∧
      (d.superclass = none → d.kind = .interface) ∧
        (d.modifiers = (ofKind d.id d.name d.kind).modifiers ∨
          d.modifiers = (ofKind d.id d.name d.kind).asAbstract.modifiers) := by
  refine ⟨fun h => ⟨fun _ => h.owner_of_mem_params, h.kind_of_superclass_eq_none, h.modifiers_eq⟩,
    ?_⟩
  obtain ⟨id, name, kind, modifiers, params, superclass, interfaces, fields, methods,
    constructors⟩ := d
  rintro ⟨howner, hsuperclass, hmodifiers⟩
  dsimp only at howner hsuperclass hmodifiers
  have hbegun : Described ⟨id, name, kind, modifiers, [], (ofKind id name kind).superclass, [], [],
      [], []⟩ := by
    rcases hmodifiers with rfl | rfl
    · exact .begun id name kind
    · exact .abstract (.begun id name kind)
  -- each list is described entry by entry, in its order
  have hparams : Described ⟨id, name, kind, modifiers, params, (ofKind id name kind).superclass, [],
      [], [], []⟩ := by
    clear hsuperclass hmodifiers
    induction params using List.reverseRecOn with
    | nil => exact hbegun
    | append_singleton params p ih =>
      obtain ⟨⟨paramName, owner⟩, bounds⟩ := p
      obtain rfl : owner = .classOwner id :=
        howner ⟨⟨paramName, owner⟩, bounds⟩ (List.mem_append_right _ (List.mem_singleton_self _))
      exact (ih fun p hp => howner p (List.mem_append_left _ hp)).param paramName bounds
  have hparent : Described ⟨id, name, kind, modifiers, params, superclass, [], [], [], []⟩ := by
    cases superclass with
    | none =>
      cases hsuperclass rfl
      exact hparams
    | some ty => exact hparams.superclass ty
  have hinterfaces := List.reverseRecOn
    (motive := fun xs => Described ⟨id, name, kind, modifiers, params, superclass, xs, [], [], []⟩)
    interfaces hparent fun _ ty h => h.interface ty
  have hfields := List.reverseRecOn
    (motive := fun xs =>
      Described ⟨id, name, kind, modifiers, params, superclass, interfaces, xs, [], []⟩)
    fields hinterfaces fun _ f h => h.field f
  have hmethods := List.reverseRecOn
    (motive := fun xs =>
      Described ⟨id, name, kind, modifiers, params, superclass, interfaces, fields, xs, []⟩)
    methods hfields fun _ m h => h.method m
  exact List.reverseRecOn
    (motive := fun xs =>
      Described ⟨id, name, kind, modifiers, params, superclass, interfaces, fields, methods, xs⟩)
    constructors hmethods fun _ c h => h.constructor c

instance : DecidablePred Described := fun _ => decidable_of_iff _ described_iff.symm

end Introspection.ClassDraft
