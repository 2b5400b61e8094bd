import Introspection.Proofs.Registry.SuperclassChain

/-!
# Assignability

Which runtime classes can stand for which.  In a hierarchy without cycles in which `Object` inherits
from nothing (`Hierarchy.Grounded`) the subclass test is a partial order, and so is assignability:
it leaves primitives alone, it goes through the components of arrays (`isAssignable_array_array`),
and it puts `Object` above everything else.

The classes above an array of primitives are few: the array itself, and the arrays of `Object` of
fewer dimensions (`isAssignable_multiArray_primitive_iff`).

The hierarchy of every reachable registry is grounded (`Registry.Reachable.grounded`), whatever has
been registered in it; an id that is not registered is below itself and `Object`.
-/

namespace Introspection

/-- The array class with some number of dimensions over a class; without a dimension it is the
class. -/
def ClassRef.multiArray (component : ClassRef) : Nat → ClassRef
  | 0 => component
  | n + 1 => .array (component.multiArray n)

theorem ClassRef.exists_eq_primitive {a : ClassRef} (ha : a.isPrimitive = true) :
    ∃ p, a = .primitive p := by
  cases a with
  | primitive p => exact ⟨p, rfl⟩
  | declared id => cases ha
  | array component => cases ha

namespace Hierarchy

variable {h : Hierarchy}

/-- No class inherits from itself, and `Object` inherits from nothing. -/
structure Grounded (h : Hierarchy) : Prop where
  /-- There are no cycles. -/
  acyclic : h.Acyclic
  /-- `Object` has no supertypes. -/
  object : ∀ parent, ¬ h.Edge .parents .object parent

/-! ### Subclasses -/

/-- Nothing but `Object` is above `Object`. -/
theorem Grounded.eq_object_of_isSubclass (hh : h.Grounded) {sup : ClassId}
    (hsub : h.isSubclass .object sup = true) : sup = .object := by
  rcases isSubclass_iff.1 hsub with rfl | hinherits
  · rfl
  · cases Relation.ReflTransGen.cases_head hinherits with
    | inl heq => exact heq.symm
    | inr hstep =>
      obtain ⟨parent, hedge, -⟩ := hstep
      exact absurd hedge (hh.object parent)

theorem Grounded.isSubclass_trans (hh : h.Grounded) {sub mid sup : ClassId}
    (hsub : h.isSubclass sub mid = true) (hsup : h.isSubclass mid sup = true) :
    h.isSubclass sub sup = true := by
  rcases isSubclass_iff.1 hsub with rfl | hlower
  · rw [hh.eq_object_of_isSubclass hsup]
    exact h.isSubclass_object sub
  · rcases isSubclass_iff.1 hsup with rfl | hupper
    · exact h.isSubclass_object sub
    · exact isSubclass_iff.2 (.inr (hlower.trans hupper))

theorem Grounded.isSubclass_antisymm (hh : h.Grounded) {a b : ClassId}
    (hab : h.isSubclass a b = true) (hba : h.isSubclass b a = true) : a = b := by
  rcases isSubclass_iff.1 hab with rfl | hup
  · exact hh.eq_object_of_isSubclass hba
  · rcases isSubclass_iff.1 hba with rfl | hdown
    · exact (hh.eq_object_of_isSubclass hab).symm
    · rcases Relation.reflTransGen_iff_eq_or_transGen.1 hup with heq | hpath
      · exact heq.symm
      · exact absurd (hpath.trans_left hdown) (hh.acyclic a)

/-! ### Assignability by shape -/

theorem isAssignable_refl (h : Hierarchy) (a : ClassRef) : h.isAssignable a a = true := by
  cases a with
  | primitive p => simp [isAssignable]
  | declared id => exact h.isSubclass_refl id
  | array component => simp [isAssignable]

/-- Nothing but itself can stand for a primitive. -/
theorem isAssignable_primitive_iff {p : Primitive} {a : ClassRef} :
    h.isAssignable (.primitive p) a = true ↔ a = .primitive p := by
  cases a with
  | primitive q =>
    rw [isAssignable, beq_iff_eq, ClassRef.primitive.injEq]
    exact eq_comm
  | declared id => simp [isAssignable]
  | array component => simp [isAssignable]

/-- A primitive can stand for nothing but itself. -/
theorem isAssignable_to_primitive_iff {p : Primitive} {a : ClassRef} :
    h.isAssignable a (.primitive p) = true ↔ a = .primitive p := by
  cases a <;> simp [isAssignable]

/-- Arrays follow their components; for primitive components both sides ask for equality. -/
theorem isAssignable_array_array (a b : ClassRef) :
    h.isAssignable (.array a) (.array b) = h.isAssignable a b := by
  rw [Bool.eq_iff_iff]
  simp only [isAssignable, Bool.or_eq_true, beq_iff_eq, Bool.and_eq_true, Bool.not_eq_true']
  constructor
  · rintro (rfl | ⟨-, hab⟩)
    · exact h.isAssignable_refl a
    · exact hab
  · intro hab
    cases ha : a.isPrimitive with
    | true =>
      obtain ⟨p, rfl⟩ := ClassRef.exists_eq_primitive ha
      exact .inl (isAssignable_primitive_iff.1 hab).symm
    | false =>
      cases hb : b.isPrimitive with
      | true =>
        obtain ⟨p, rfl⟩ := ClassRef.exists_eq_primitive hb
        exact .inl (isAssignable_to_primitive_iff.1 hab)
      | false => exact .inr ⟨⟨rfl, rfl⟩, hab⟩

/-- What can stand for a class is a subclass of it, or an array if the class is `Object`. -/
theorem isAssignable_declared_iff {sup : ClassId} {a : ClassRef} :
    h.isAssignable (.declared sup) a = true ↔
      (∃ sub, a = .declared sub ∧ h.isSubclass sub sup = true) ∨
        sup = .object ∧ ∃ component, a = .array component := by
  cases a <;> simp [isAssignable]

/-- What an array can stand for is `Object`, or an array. -/
theorem isAssignable_to_array_iff {a component : ClassRef} :
    h.isAssignable a (.array component) = true ↔
      a = .object ∨ ∃ upper, a = .array upper ∧ h.isAssignable upper component = true := by
  cases a with
  | primitive p => simp [isAssignable, ClassRef.object]
  | declared id => simp [isAssignable, ClassRef.object]
  | array upper => simp [isAssignable_array_array, ClassRef.object]

/-! ### The order -/

/-- Assignability goes on through a class in between. -/
theorem Grounded.isAssignable_trans (hh : h.Grounded) {a b c : ClassRef}
    (hab : h.isAssignable a b = true) (hbc : h.isAssignable b c = true) :
    h.isAssignable a c = true := by
  induction b generalizing a c with
  | primitive p =>
    rw [isAssignable_to_primitive_iff.1 hab]
    exact hbc
  | declared mid =>
    rcases isAssignable_declared_iff.1 hbc with ⟨sub, rfl, hsub⟩ | ⟨rfl, component, rfl⟩
    · cases a with
      | primitive p => cases hab
      | declared sup => exact hh.isSubclass_trans hsub hab
      | array upper => cases hab
    · -- only `Object` is above `Object`
      cases a with
      | primitive p => cases hab
      | declared sup =>
        rw [hh.eq_object_of_isSubclass hab]
        exact hbc
      | array upper => cases hab
  | array component ih =>
    cases c with
    | primitive p => cases hbc
    | declared id => cases hbc
    | array lower =>
      rw [isAssignable_array_array] at hbc
      rcases isAssignable_to_array_iff.1 hab with rfl | ⟨upper, rfl, hupper⟩
      · exact isAssignable_to_array_iff.2 (.inl rfl)
      · rw [isAssignable_array_array]
        exact ih hupper hbc

/-- Two classes that can stand for each other are the same. -/
theorem Grounded.isAssignable_antisymm (hh : h.Grounded) {a b : ClassRef}
    (hab : h.isAssignable a b = true) (hba : h.isAssignable b a = true) : a = b := by
  induction a generalizing b with
  | primitive p => exact (isAssignable_primitive_iff.1 hab).symm
  | declared id =>
    cases b with
    | primitive p => cases hab
    | declared id' => exact congrArg ClassRef.declared (hh.isSubclass_antisymm hba hab)
    | array component => cases hba
  | array component ih =>
    cases b with
    | primitive p => cases hab
    | declared id => cases hab
    | array component' =>
      rw [isAssignable_array_array] at hab hba
      exact congrArg ClassRef.array (ih hab hba)

/-! ### Arrays of primitives -/

/-- Above an array of primitives are itself and the arrays of `Object` of fewer dimensions. -/
theorem isAssignable_to_multiArray_primitive_iff {p : Primitive} {n : Nat} {a : ClassRef} :
    h.isAssignable a ((ClassRef.primitive p).multiArray n) = true ↔
      a = (ClassRef.primitive p).multiArray n ∨ ∃ k < n, a = ClassRef.object.multiArray k := by
  induction n generalizing a with
  | zero => simp [ClassRef.multiArray, isAssignable_to_primitive_iff]
  | succ n ih =>
    rw [ClassRef.multiArray, isAssignable_to_array_iff]
    constructor
    · rintro (rfl | ⟨upper, rfl, hupper⟩)
      · exact .inr ⟨0, n.succ_pos, rfl⟩
      · rcases ih.1 hupper with rfl | ⟨k, hk, rfl⟩
        · exact .inl rfl
        · exact .inr ⟨k + 1, Nat.succ_lt_succ hk, rfl⟩
    · rintro (rfl | ⟨k, hk, rfl⟩)
      · exact .inr ⟨_, rfl, h.isAssignable_refl _⟩
      · cases k with
        | zero => exact .inl rfl
        | succ k => exact .inr ⟨_, rfl, ih.2 (.inr ⟨k, Nat.lt_of_succ_lt_succ hk, rfl⟩)⟩

/-- Below an array of primitives is nothing but itself. -/
theorem isAssignable_multiArray_primitive_iff {p : Primitive} {n : Nat} {a : ClassRef} :
    h.isAssignable ((ClassRef.primitive p).multiArray n) a = true ↔
      a = (ClassRef.primitive p).multiArray n := by
  induction n generalizing a with
  | zero => exact isAssignable_primitive_iff
  | succ n ih =>
    cases a with
    | primitive q => simp [ClassRef.multiArray, isAssignable]
    | declared id => simp [ClassRef.multiArray, isAssignable]
    | array component => rw [ClassRef.multiArray, isAssignable_array_array, ih,
        ClassRef.array.injEq]

end Hierarchy

namespace Registry

variable {r : Registry}

/-- The hierarchy of a reachable registry has no cycles, and `Object` is at its top. -/
theorem Reachable.grounded (h : r.Reachable) : r.hierarchy.Grounded := by
  refine ⟨h.wellFormed.acyclic, fun parent hedge => ?_⟩
  obtain ⟨c, hc, hnone⟩ : ∃ c, Registry.initial.class? .object = some c ∧
      c.declaration.parents = [] := ⟨_, rfl, rfl⟩
  obtain ⟨c', hc', hparent⟩ := edge_parents_iff.1 hedge
  cases hc'.symm.trans (h.extends_initial _ c hc)
  rw [hnone] at hparent
  cases hparent

/-- In every reachable registry assignability is a partial order on all runtime classes, the
unregistered ones included.  `Object` is above every declared class and every array, and above no
primitive; a primitive is related to itself alone.  The classes above an array of primitives are
itself and the arrays of `Object` of fewer dimensions, of which `Object` is the one without any, and
below it there is only itself. -/
theorem isAssignable_partialOrder (h : r.Reachable) :
    (∀ a, r.hierarchy.isAssignable a a = true) ∧
    (∀ a b c, r.hierarchy.isAssignable a b = true → r.hierarchy.isAssignable b c = true →
      r.hierarchy.isAssignable a c = true) ∧
    (∀ a b, r.hierarchy.isAssignable a b = true → r.hierarchy.isAssignable b a = true → a = b) ∧
    (∀ id, r.hierarchy.isAssignable .object (.declared id) = true) ∧
    (∀ component, r.hierarchy.isAssignable .object (.array component) = true) ∧
    (∀ p, r.hierarchy.isAssignable .object (.primitive p) = false) ∧
    (∀ p a, (r.hierarchy.isAssignable (.primitive p) a = true ↔ a = .primitive p) ∧
      (r.hierarchy.isAssignable a (.primitive p) = true ↔ a = .primitive p)) ∧
    ∀ p n a, (r.hierarchy.isAssignable a ((ClassRef.primitive p).multiArray n) = true ↔
        a = (ClassRef.primitive p).multiArray n ∨ ∃ k < n, a = ClassRef.object.multiArray k) ∧
      (r.hierarchy.isAssignable ((ClassRef.primitive p).multiArray n) a = true ↔
        a = (ClassRef.primitive p).multiArray n) := by
  have hh := h.grounded
  refine ⟨r.hierarchy.isAssignable_refl, fun a b c => hh.isAssignable_trans,
    fun a b => hh.isAssignable_antisymm, r.hierarchy.isSubclass_object, fun component => rfl,
    fun p => rfl, fun p a => ?primitive, fun p n a => ?array⟩
  case primitive =>
    exact ⟨Hierarchy.isAssignable_primitive_iff, Hierarchy.isAssignable_to_primitive_iff⟩
  case array =>
    exact ⟨Hierarchy.isAssignable_to_multiArray_primitive_iff,
      Hierarchy.isAssignable_multiArray_primitive_iff⟩

/-- The calls that register an interface and a class with it, and reserve a place that stays
free. -/
def shapeCalls : List RegistryCall :=
  [.reserve "Shape" .interface, .reserve "Circle" .ordinary, .reserve "Square" .ordinary,
    .register (.ofKind ⟨7⟩ "Shape" .interface),
    .register ((ClassDraft.ofKind ⟨8⟩ "Circle" .ordinary).withInterface (.ofClass ⟨7⟩))]

/-- Arrays of the class can stand for arrays of the interface and hence not the other way round.
The class that has not been registered is not above the class either.  Above the arrays of arrays of
`int` are themselves, `Object` and the arrays of `Object`. -/
theorem shapeCalls_partialOrder :
    let h := (shapeCalls.foldl after initial).hierarchy
    (shapeCalls.foldl after initial).Reachable ∧
    h.isAssignable (.array (.declared ⟨7⟩)) (.array (.declared ⟨8⟩)) = true ∧
    h.isAssignable (.array (.declared ⟨8⟩)) (.array (.declared ⟨7⟩)) = false ∧
    h.isAssignable (.declared ⟨9⟩) (.declared ⟨8⟩) = false ∧
    ∀ a, h.isAssignable a (.array (.array (.primitive .int))) = true ↔
      a = .array (.array (.primitive .int)) ∨ a = .object ∨ a = .array .object := by
  intro h
  have hreachable : (shapeCalls.foldl after initial).Reachable :=
    Reachable.initial.foldl (by decide)
  obtain ⟨-, -, hantisymm, -, -, -, -, harrays⟩ := isAssignable_partialOrder hreachable
  have hup : h.isAssignable (.array (.declared ⟨7⟩)) (.array (.declared ⟨8⟩)) = true := by
    decide +kernel
  refine ⟨hreachable, hup, ?down, by decide +kernel, fun a => ?above⟩
  case down =>
    rw [← Bool.not_eq_true]
    intro hdown
    exact absurd (hantisymm _ _ hup hdown) (by decide)
  case above =>
    refine (harrays .int 2 a).1.trans ?_
    constructor
    · rintro (rfl | ⟨k, hk, rfl⟩)
      · exact .inl rfl
      · match k, hk with
        | 0, _ => exact .inr (.inl rfl)
        | 1, _ => exact .inr (.inr rfl)
    · rintro (rfl | rfl | rfl)
      · exact .inl rfl
      · exact .inr ⟨0, by decide, rfl⟩
      · exact .inr ⟨1, by decide, rfl⟩

end Registry

end Introspection
