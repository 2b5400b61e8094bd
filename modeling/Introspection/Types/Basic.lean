/-!
# Types

A `ClassRef` is a class as it exists at run time, with every type argument erased: a primitive, a
declared class, or an array of either.  A `Ty` is a type as it is written in a declaration, and may
mention type arguments, wildcards and type variables.

`Ty.erasure` and `Ty.collapse` are the two ways from a written type to a runtime class: the first
takes the bounds of variables and wildcards into account, the second sends them all to `Object`.
Type variables are identified by their name and owner alone, so `Ty.same` compares types without
looking at the bounds written at a use of a variable.
-/

namespace Introspection

/-- A class, by its place in the table of classes. -/
structure ClassId where
  /-- The place. -/
  index : Nat
deriving DecidableEq

/-- The class `Object`, the top of every hierarchy. -/
def ClassId.object : ClassId := ⟨0⟩

/-- The types that are not classes. -/
inductive Primitive where
  | boolean | byte | short | char | int | long | float | double | void
deriving DecidableEq

/-- The keyword of a primitive type. -/
def Primitive.keyword : Primitive → String
  | .boolean => "boolean"
  | .byte => "byte"
  | .short => "short"
  | .char => "char"
  | .int => "int"
  | .long => "long"
  | .float => "float"
  | .double => "double"
  | .void => "void"

/-- A class as it exists at run time. -/
inductive ClassRef where
  /-- A primitive type. -/
  | primitive (p : Primitive)
  /-- A declared class or interface. -/
  | declared (id : ClassId)
  /-- The array class with the given component. -/
  | array (component : ClassRef)
deriving DecidableEq

namespace ClassRef

/-- The class `Object`. -/
def object : ClassRef := declared ClassId.object

/-- Whether this is the primitive `boolean`. -/
def isBoolean : ClassRef → Bool
  | primitive .boolean => true
  | _ => false

/-- Whether this is a primitive. -/
def isPrimitive : ClassRef → Bool
  | primitive _ => true
  | _ => false

/-- The component of an array class. -/
def component? : ClassRef → Option ClassRef
  | array component => some component
  | _ => none

/-- The id of a declared class. -/
def declared? : ClassRef → Option ClassId
  | declared id => some id
  | _ => none

end ClassRef

/-- What declares a type variable. -/
inductive VariableOwner where
  /-- A generic class. -/
  | classOwner (id : ClassId)
  /-- A generic method of a class. -/
  | methodOwner (id : ClassId) (method : String)
deriving DecidableEq

/-- What identifies a type variable: its name and what declares it. -/
structure VariableId where
  /-- The name. -/
  name : String
  /-- What declares the variable. -/
  owner : VariableOwner
deriving DecidableEq

/-- A type as written in a declaration. -/
inductive Ty where
  /-- A class without type arguments. -/
  | plain (ref : ClassRef)
  /-- A generic class with type arguments. -/
  | parameterized (raw : ClassId) (args : List Ty)
  /-- An array whose component is still generic. -/
  | genericArray (component : Ty)
  /-- A wildcard with its upper and its lower bounds. -/
  | wildcard (upper lower : List Ty)
  /-- A use of a type variable, with the bounds written there. -/
  | var (id : VariableId) (bounds : List Ty)

/-- A type parameter of a class: a variable with its upper bounds. -/
structure TypeVariable where
  /-- What identifies the variable. -/
  id : VariableId
  /-- The upper bounds, the first of which the variable erases to. -/
  bounds : List Ty

/-- The type that mentions a type parameter. -/
def TypeVariable.toTy (v : TypeVariable) : Ty :=
  .var v.id v.bounds

namespace Ty

/-- The class `Object` as a type. -/
def object : Ty := plain ClassRef.object

/-- A declared class without type arguments. -/
def ofClass (id : ClassId) : Ty := plain (.declared id)

/-- The wildcard without a bound of its own. -/
def unbounded : Ty := wildcard [object] []

/-- The wildcard for the subtypes of a type. -/
def extending (bound : Ty) : Ty := wildcard [bound] []

/-- The wildcard for the supertypes of a type. -/
def superOf (bound : Ty) : Ty := wildcard [object] [bound]

/-- The class behind a plain class type or a parameterized type. -/
def rawClass? : Ty → Option ClassId
  | plain (.declared id) => some id
  | parameterized raw _ => some raw
  | _ => none

/-- The runtime class of a written type: a variable erases to its first bound, a wildcard to its
first upper bound, and without one each erases to `Object`. -/
def erasure : Ty → ClassRef
  | plain ref => ref
  | parameterized raw _ => .declared raw
  | genericArray component => .array component.erasure
  | wildcard [] _ => .object
  | wildcard (bound :: _) _ => bound.erasure
  | var _ [] => .object
  | var _ (bound :: _) => bound.erasure

/-- The runtime class of a resolved type: what is still a variable or a wildcard becomes
`Object`. -/
def collapse : Ty → ClassRef
  | plain ref => ref
  | parameterized raw _ => .declared raw
  | genericArray component => .array component.collapse
  | wildcard _ _ => .object
  | var _ _ => .object

/-- The array type with the given component; an array of a plain class is plain again. -/
def arrayOf : Ty → Ty
  | plain ref => plain (.array ref)
  | component => genericArray component

mutual

/-- Equality of types, where a variable is known by its name and owner alone. -/
def same : Ty → Ty → Bool
  | plain a, plain b => a == b
  | parameterized a as, parameterized b bs => a == b && sameAll as bs
  | genericArray a, genericArray b => same a b
  | wildcard au al, wildcard bu bl => sameAll au bu && sameAll al bl
  | var a _, var b _ => a == b
  | _, _ => false

/-- `Ty.same` on two lists of equal length. -/
def sameAll : List Ty → List Ty → Bool
  | [], [] => true
  | a :: as, b :: bs => same a b && sameAll as bs
  | _, _ => false

end

end Ty

end Introspection
