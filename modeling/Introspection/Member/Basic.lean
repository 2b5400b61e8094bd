import Introspection.Modifiers
import Introspection.Object.Layout

/-!
# Members

The fields, methods and constructors that a class declares.  They share what `Member` holds: their
identity, their name, the name of their class and their modifiers.

A method is *virtual* if an object's own class decides which body runs, which is the case unless it
is static or private.  The `slot` of a method is what its name and the runtime classes of its
parameters make of it, its `signature` has the runtime class it returns as well.
-/

namespace Introspection

/-- What all members have. -/
structure Member where
  /-- The identity. -/
  id : MemberId
  /-- The name. -/
  name : String
  /-- The name of the declaring class. -/
  ownerName : String
  /-- The modifiers. -/
  modifiers : Modifiers
deriving DecidableEq

/-- The declaring class. -/
def Member.declaring (m : Member) : ClassId :=
  m.id.owner

/-- The name behind that of the declaring class. -/
def Member.qualifiedName (m : Member) : String :=
  m.ownerName ++ "." ++ m.name

/-- A declared field. -/
structure Field extends Member where
  /-- The type, as written. -/
  type : Ty
  /-- The value that it starts with. -/
  initial : Value

namespace Field

/-- The key of the field in objects. -/
def key (f : Field) : FieldKey :=
  ⟨f.declaring, f.name⟩

/-- The field written out. -/
def written (f : Field) : String :=
  Text.record "FieldDef"
    [("name", Text.quoted f.qualifiedName), ("type", f.type.written),
     ("modifiers", f.modifiers.written)]

end Field

/-- What tells one method of a class chain from another: what overrides has the same signature. -/
structure Signature where
  /-- The runtime class returned. -/
  returns : ClassRef
  /-- The name and the parameters. -/
  slot : MethodSlot
deriving DecidableEq

/-- A declared method. -/
structure Method extends Member where
  /-- The type returned, as written. -/
  returnType : Ty
  /-- The types of the parameters, as written. -/
  params : List Ty
  /-- The body, unless the method is abstract. -/
  body? : Option MethodBody

namespace Method

/-- The runtime class returned. -/
def returnClass (m : Method) : ClassRef :=
  m.returnType.erasure

/-- The runtime classes of the parameters. -/
def paramClasses (m : Method) : List ClassRef :=
  m.params.map Ty.erasure

/-- The runtime class of the first parameter, and `Object` without one. -/
def firstParamClass (m : Method) : ClassRef :=
  m.paramClasses.headD .object

/-- The place of the method in dispatch tables. -/
def slot (m : Method) : MethodSlot :=
  ⟨m.name, m.paramClasses⟩

/-- The signature of the method. -/
def signature (m : Method) : Signature :=
  ⟨m.returnClass, m.slot⟩

/-- Whether the class of the receiver decides which body runs. -/
def isVirtual (m : Method) : Bool :=
  !m.modifiers.isStatic && !m.modifiers.isPrivate

/-- The method's own body as an entry of a dispatch table. -/
def implementation? (m : Method) : Option Implementation :=
  m.body?.map fun body => ⟨m.id, body⟩

/-- The method written out. -/
def written (m : Method) : String :=
  Text.record "MethodDef"
    [("name", Text.quoted m.qualifiedName), ("return_type", m.returnType.written),
     ("params", Text.listing (Ty.writtenAll m.params)), ("modifiers", m.modifiers.written),
     ("concrete", if m.body?.isSome then "true" else "false")]

end Method

/-- A declared constructor. -/
structure Constructor extends Member where
  /-- The types of the parameters, as written. -/
  params : List Ty
  /-- What it does with the new object, if anything. -/
  body? : Option ConstructorBody
  /-- The layout of the objects it makes. -/
  layout : Layout

/-- The constructor written out. -/
def Constructor.written (c : Constructor) : String :=
  Text.record "ConstructorDef"
    [("class", Text.quoted c.ownerName), ("params", Text.listing (Ty.writtenAll c.params)),
     ("modifiers", c.modifiers.written)]

end Introspection
