import Introspection.Hierarchy.Traversal

/-!
# Subtyping

`isSubclass` holds between declared classes: everything is a subclass of itself and of `Object`,
and otherwise of what its supertypes lead to.  `isAssignable` extends it to runtime classes:
primitives stand alone, arrays of references follow their components, and `Object` is above every
array.
-/

namespace Introspection.Hierarchy

/-- Whether `sub` is `sup` or inherits from it. -/
def isSubclass (h : Hierarchy) (sub sup : ClassId) : Bool :=
  sub == sup || sup == .object || (h.preorder .parents sub).contains sup

/-- Whether a value of class `sub` can stand where one of class `sup` is expected. -/
def isAssignable (h : Hierarchy) : (sup sub : ClassRef) → Bool
  | .declared sup, .declared sub => h.isSubclass sub sup
  | .declared sup, .array _ => sup == .object
  | .array sup, .array sub =>
    sup == sub || (!sup.isPrimitive && !sub.isPrimitive && h.isAssignable sup sub)
  | .primitive p, .primitive q => p == q
  | _, _ => false

/-- Every class is a subclass of itself. -/
theorem isSubclass_refl (h : Hierarchy) (id : ClassId) : h.isSubclass id id = true := by
  simp [isSubclass]

/-- Every class is a subclass of `Object`. -/
theorem isSubclass_object (h : Hierarchy) (id : ClassId) : h.isSubclass id .object = true := by
  simp [isSubclass]

end Introspection.Hierarchy
