import Introspection.Proofs.Metadata.Getters
import Introspection.Proofs.Registry.Definition

/-!
# Properties of superclasses

A class shows all that its superclasses show: what can be read or written there can be read or
written on the class, and where both read a property through a method, that of the class returns a
class that is no wider (`Metadata.exists_ofClass_refines`).

The metadata of the two classes are built apart, from lists of methods in which one signature may
stand for different methods.  What carries over is what is collected: every method that is collected
for a superclass is collected for the class (`Registry.Collects.of_superclass`), and the getter of a
property is the narrowest one of all that are collected.
-/

namespace Introspection

namespace Registry

variable {r : Registry} {id parent : ClassId} {c c' : ClassInfo} {m : Method}

/-- What is collected for a superclass is collected for the class. -/
theorem Collects.of_superclass (hsuper : r.hierarchy.Reaches .superclass id parent)
    (hm : r.Collects parent m) : r.Collects id m := by
  obtain ⟨hbridge, owner, howner, hrest⟩ := hm
  exact ⟨hbridge, owner, hsuper.trans howner, hrest⟩

/-- No class but records has a record in its superclass chain. -/
theorem Reachable.isRecord_of_mem_superclassChain (h : r.Reachable) (hc : r.class? id = some c)
    (hrecord : c.isRecord = false) (hparent : parent ∈ r.superclassChain id)
    (hc' : r.class? parent = some c') : c'.isRecord = false := by
  have hr := h.wellFormed
  refine hr.superclass_induction (P := fun id c => c.isRecord = false →
    parent ∈ r.superclassChain id → c'.isRecord = false) ?root ?step hc hrecord hparent
  case root =>
    intro id c hc hsuper hrecord hparent
    rw [hr.superclassChain_of_superclass_eq_none hc hsuper, List.mem_singleton] at hparent
    subst hparent
    cases hc.symm.trans hc'
    exact hrecord
  case step =>
    intro id c raw above hc hsuper habove ih hrecord hparent
    rw [hr.superclassChain_of_superclass hc hsuper, List.mem_cons] at hparent
    rcases hparent with rfl | hparent
    · cases hc.symm.trans hc'
      exact hrecord
    · exact ih (h.isRecord_of_superclass hc hsuper habove) hparent

end Registry

/-- What a getter reads is of the class that it returns. -/
theorem Method.Accesses.valueClass_eq {g : Method} {name : String} (hg : g.Accesses .get name) :
    (Accessor.method g).valueClass = g.returnClass := by
  simp [Accessor.valueClass, Method.valueClass, (Method.accesses_get_iff.1 hg).1]

namespace Metadata

variable {r : Registry} {id parent : ClassId} {c c' : ClassInfo} {m p : Metadata}

/-- The first metadata refine the second ones: they have all their properties, and where both read a
property through a method, that of the first ones returns a class that is no wider. -/
structure Refines (h : Hierarchy) (m p : Metadata) : Prop where
  /-- What can be read there can be read here. -/
  readable : ∀ name ∈ p.readable, name ∈ m.readable
  /-- What can be written there can be written here. -/
  writable : ∀ name ∈ p.writable, name ∈ m.writable
  /-- The class of a getter here can be assigned to that of the getter there. -/
  narrows : ∀ name g k, m.accessor .get name = .ok (.method g) →
    p.accessor .get name = .ok (.method k) →
      h.isAssignable (Accessor.method k).valueClass (Accessor.method g).valueClass = true

/-- Each direction of the metadata shows the origin in this direction. -/
theorem towards_shows {o : Origin} (hshow : m.toProperties.Show o) (direction : Direction) :
    (m.towards direction).Shows o direction := by
  cases direction with
  | get => exact hshow.1
  | set => exact hshow.2

/-- A class that is no record has the properties of its superclasses. -/
theorem mem_names_of_superclass (h : r.Reachable) (hc : r.class? id = some c)
    (hrecord : c.isRecord = false) (hsuper : r.hierarchy.Reaches .superclass id parent)
    (hm : ofClass r id = .ok m) (hp : ofClass r parent = .ok p) (direction : Direction)
    {name : String} (hname : name ∈ (p.towards direction).names) :
    name ∈ (m.towards direction).names := by
  obtain ⟨c₁, methods, fields, hc₁, hmethods, hfields, hshow, -⟩ := exists_origin hm
  obtain ⟨c₂, methods', fields', hc₂, hmethods', hfields', hshow', -⟩ := exists_origin hp
  cases hc.symm.trans hc₁
  have hrecord' : c₂.isRecord = false := h.isRecord_of_mem_superclassChain hc hrecord
    (Registry.mem_superclassChain_iff.2 hsuper) hc₂
  rw [hrecord] at hshow
  rw [hrecord'] at hshow'
  rw [hrecord, if_neg Bool.false_ne_true] at hfields
  rw [hrecord', if_neg Bool.false_ne_true] at hfields'
  rw [(towards_shows hshow direction).mem_names_iff]
  rcases (towards_shows hshow' direction).mem_names_iff.1 hname with hmethod | ⟨f, hf, hprovides⟩
  · left
    obtain ⟨k, hk, hprovides⟩ := (h.exists_provides_iff hc₂ hmethods').1 hmethod
    exact (h.exists_provides_iff hc hmethods).2 ⟨k, hk.of_superclass hsuper, hprovides⟩
  · right
    obtain ⟨owner, howner, hdeclares⟩ := (Registry.mem_chainFields_iff hfields').1 hf
    exact ⟨f, (Registry.mem_chainFields_iff hfields).2
      ⟨owner, hsuper.trans howner, hdeclares⟩, hprovides⟩

/-- The metadata of a registered class that is no record refine those of each of its
superclasses. -/
theorem exists_ofClass_refines (h : r.Reachable) (hc : r.class? id = some c)
    (hrecord : c.isRecord = false) (hsuper : r.hierarchy.Reaches .superclass id parent) :
    ∃ m p, ofClass r id = .ok m ∧ ofClass r parent = .ok p ∧ m.Refines r.hierarchy p := by
  have hmem := Registry.mem_superclassChain_iff.2 hsuper
  obtain ⟨c', hc'⟩ := h.wellFormed.exists_class_of_mem_superclassChain hc hmem
  have hrecord' := h.isRecord_of_mem_superclassChain hc hrecord hmem hc'
  obtain ⟨m, hm⟩ := exists_ofClass_eq_ok h.wellFormed hc
  obtain ⟨p, hp⟩ := exists_ofClass_eq_ok h.wellFormed hc'
  refine ⟨m, p, hm, hp, fun name => ?readable, fun name => ?writable,
    fun name g k hg hk => ?narrows⟩
  case readable => exact mem_names_of_superclass h hc hrecord hsuper hm hp .get
  case writable => exact mem_names_of_superclass h hc hrecord hsuper hm hp .set
  case narrows =>
    obtain ⟨⟨-, haccesses⟩, hleast⟩ := isAssignable_of_accessor_eq_method h hc hrecord hm hg
    obtain ⟨⟨hcollects, haccesses'⟩, -⟩ :=
      isAssignable_of_accessor_eq_method h hc' hrecord' hp hk
    rw [haccesses.valueClass_eq, haccesses'.valueClass_eq]
    exact hleast k (hcollects.of_superclass hsuper) haccesses'

/-- The draft of a class with a field and a getter of any number. -/
def holderDraft : ClassDraft :=
  ((ClassDraft.ofKind ⟨7⟩ "Holder" .ordinary).withField (.named "note" (.ofClass ⟨1⟩))).withMethod
    { MethodDraft.named "getValue" with returnType := .ofClass ⟨2⟩ }

/-- The draft of a class that extends it and returns integers, behind a bridge for any number. -/
def integerHolderDraft : ClassDraft :=
  (((ClassDraft.ofKind ⟨8⟩ "IntegerHolder" .ordinary).withSuperclass (.ofClass ⟨7⟩)).withMethod
    { MethodDraft.named "getValue" with returnType := .ofClass ⟨2⟩ }.asBridge).withMethod
      { MethodDraft.named "getValue" with returnType := .ofClass ⟨3⟩ }

/-- The calls that define both classes. -/
def holderCalls : List RegistryCall :=
  Registry.definitionCalls [holderDraft, integerHolderDraft]

/-- The class that the getter of a property returns, if it is a definite method. -/
def getterClass? (m : Metadata) (name : String) : Option ClassRef :=
  match m.accessor .get name with
  | .ok (.method g) => some (Accessor.method g).valueClass
  | _ => none

theorem getterClass?_eq_some_iff {name : String} {type : ClassRef} :
    m.getterClass? name = some type ↔
      ∃ g, m.accessor .get name = .ok (.method g) ∧ (Accessor.method g).valueClass = type := by
  unfold getterClass?
  split
  · next g hg => simp [hg]
  · next hnot =>
    simp only [reduceCtorEq, false_iff]
    rintro ⟨g, hg, -⟩
    exact hnot g hg

/-- The second class has the field of the first one, and its getter returns integers, which are
numbers. -/
theorem holderCalls_refines :
    let r := holderCalls.foldl Registry.after .initial
    ∃ m p, ofClass r ⟨8⟩ = .ok m ∧ ofClass r ⟨7⟩ = .ok p ∧
      m.getterClass? "value" = some (.declared ⟨3⟩) ∧
      p.getterClass? "value" = some (.declared ⟨2⟩) ∧
      r.hierarchy.isAssignable (.declared ⟨2⟩) (.declared ⟨3⟩) = true ∧ "note" ∈ m.writable := by
  intro r
  have hreachable : r.Reachable := Registry.reachable_definitionCalls (by decide)
  have hordinary : (r.class? ⟨8⟩).map (·.isRecord) = some false := by decide +kernel
  obtain ⟨c, hc, hrecord⟩ := Option.map_eq_some_iff.1 hordinary
  have hsuper : r.hierarchy.Reaches .superclass ⟨8⟩ ⟨7⟩ := by
    rw [← Registry.mem_superclassChain_iff]
    decide +kernel
  obtain ⟨m, p, hm, hp, hrefines⟩ := exists_ofClass_refines hreachable hc hrecord hsuper
  have hshown : (ofClass r ⟨8⟩).toOption.map (·.getterClass? "value") =
      some (some (.declared ⟨3⟩)) ∧ (ofClass r ⟨7⟩).toOption.map (fun p =>
        (p.getterClass? "value", p.writable)) = some (some (.declared ⟨2⟩), ["note"]) := by
    decide +kernel
  rw [hm, hp] at hshown
  obtain ⟨hvalue, hvalue', hwritable⟩ : m.getterClass? "value" = some (.declared ⟨3⟩) ∧
      p.getterClass? "value" = some (.declared ⟨2⟩) ∧ p.writable = ["note"] := by
    simpa [Except.toOption] using hshown
  obtain ⟨g, hg, hclass⟩ := getterClass?_eq_some_iff.1 hvalue
  obtain ⟨k, hk, hclass'⟩ := getterClass?_eq_some_iff.1 hvalue'
  refine ⟨m, p, hm, hp, hvalue, hvalue', ?_, hrefines.writable "note" (by simp [hwritable])⟩
  rw [← hclass, ← hclass']
  exact hrefines.narrows "value" g k hg hk

end Metadata

end Introspection
