import Introspection.Member.Basic

/-!
# Drafts

What is known about a class before it is registered.  A draft has the id that was reserved for it,
so the types in it can already mention the class itself.

The body of a method may be given as such, or as one that reads or writes a field; which field a
name means is decided when the class is registered.
-/

namespace Introspection

/-- The kinds of classes. -/
inductive ClassKind where
  /-- A class in the narrow sense. -/
  | ordinary
  /-- An interface: no objects and no constructors. -/
  | interface
  /-- A record: every method without parameters is a property. -/
  | record
deriving DecidableEq

/-- The kind written out. -/
def ClassKind.written : ClassKind → String
  | ordinary => "Class"
  | interface => "Interface"
  | record => "Record"

/-- The body of a method before its class is registered. -/
inductive DraftBody where
  /-- A body given as such. -/
  | native (body : MethodBody)
  /-- Returns a field of the receiver. -/
  | reads (field : String)
  /-- Puts the first argument into a field of the receiver. -/
  | writes (field : String)

/-- The body with the field it names looked up among the fields that its class sees, the first of
that name. -/
def DraftBody.bind (fields : List FieldKey) : DraftBody → MethodBody
  | native body => body
  | reads field => MethodBody.reading field (fields.find? (·.name == field))
  | writes field => MethodBody.writing field (fields.find? (·.name == field))

/-- A field before its class is registered. -/
structure FieldDraft where
  /-- The name. -/
  name : String
  /-- The type. -/
  type : Ty
  /-- The modifiers. -/
  modifiers : Modifiers
  /-- The value that it starts with. -/
  initial : Value

/-- A public field that starts as `null`. -/
def FieldDraft.named (name : String) (type : Ty) : FieldDraft :=
  ⟨name, type, .publicFlag, .null⟩

/-- A method before its class is registered. -/
structure MethodDraft where
  /-- The name. -/
  name : String
  /-- The type returned. -/
  returnType : Ty
  /-- The types of the parameters. -/
  params : List Ty
  /-- The modifiers. -/
  modifiers : Modifiers
  /-- The body, if it has one. -/
  body? : Option DraftBody

/-- A public method without parameters and body that returns nothing. -/
def MethodDraft.named (name : String) : MethodDraft :=
  ⟨name, .plain (.primitive .void), [], .publicFlag, none⟩

/-- The method marked as a bridge. -/
def MethodDraft.asBridge (m : MethodDraft) : MethodDraft :=
  { m with modifiers := (m.modifiers.union .bridgeFlag).union .syntheticFlag }

/-- A constructor before its class is registered. -/
structure ConstructorDraft where
  /-- The types of the parameters. -/
  params : List Ty
  /-- The modifiers. -/
  modifiers : Modifiers
  /-- What it does with the new object, if anything. -/
  body? : Option ConstructorBody

/-- The public constructor without parameters that leaves the new object as it is. -/
def ConstructorDraft.default : ConstructorDraft :=
  ⟨[], .publicFlag, none⟩

/-- A class before it is registered. -/
structure ClassDraft where
  /-- The reserved id. -/
  id : ClassId
  /-- The name. -/
  name : String
  /-- The kind. -/
  kind : ClassKind
  /-- The modifiers. -/
  modifiers : Modifiers
  /-- The type parameters. -/
  params : List TypeVariable
  /-- The superclass. -/
  superclass : Option Ty
  /-- The interfaces. -/
  interfaces : List Ty
  /-- The fields. -/
  fields : List FieldDraft
  /-- The methods. -/
  methods : List MethodDraft
  /-- The constructors. -/
  constructors : List ConstructorDraft

namespace ClassDraft

/-- The draft of a class about which nothing else is known: everything extends `Object` but
interfaces, which are abstract, while records are final. -/
def ofKind (id : ClassId) (name : String) (kind : ClassKind) : ClassDraft :=
  let (modifiers, superclass) := match kind with
    | .ordinary => (Modifiers.publicFlag, some Ty.object)
    | .interface => (Modifiers.publicFlag.union .abstractFlag, none)
    | .record => (Modifiers.publicFlag.union .finalFlag, some Ty.object)
  ⟨id, name, kind, modifiers, [], superclass, [], [], [], []⟩

/-- The type of the class itself. -/
def thisType (d : ClassDraft) : Ty :=
  .ofClass d.id

/-- The draft with one more type parameter. -/
def withParam (d : ClassDraft) (name : String) (bounds : List Ty) : ClassDraft :=
  { d with params := d.params ++ [⟨⟨name, .classOwner d.id⟩, bounds⟩] }

/-- The draft with a superclass, in the place of the one it had. -/
def withSuperclass (d : ClassDraft) (superclass : Ty) : ClassDraft :=
  { d with superclass := some superclass }

/-- The draft with one more interface. -/
def withInterface (d : ClassDraft) (interface : Ty) : ClassDraft :=
  { d with interfaces := d.interfaces ++ [interface] }

/-- The draft with one more field. -/
def withField (d : ClassDraft) (f : FieldDraft) : ClassDraft :=
  { d with fields := d.fields ++ [f] }

/-- The draft with one more method. -/
def withMethod (d : ClassDraft) (m : MethodDraft) : ClassDraft :=
  { d with methods := d.methods ++ [m] }

/-- The draft with one more constructor. -/
def withConstructor (d : ClassDraft) (c : ConstructorDraft) : ClassDraft :=
  { d with constructors := d.constructors ++ [c] }

/-- The draft marked as abstract. -/
def asAbstract (d : ClassDraft) : ClassDraft :=
  { d with modifiers := d.modifiers.union .abstractFlag }

/-- The draft marked as final. -/
def asFinal (d : ClassDraft) : ClassDraft :=
  { d with modifiers := d.modifiers.union .finalFlag }

end ClassDraft

/-! ### Drafts written out -/

/-- The draft of a field written out. -/
def FieldDraft.written (f : FieldDraft) : String :=
  Text.record "FieldBuilder"
    [("name", Text.quoted f.name), ("ty", f.type.written), ("modifiers", f.modifiers.written),
     ("initial", f.initial.written)]

/-- The draft of a method written out. -/
def MethodDraft.written (m : MethodDraft) : String :=
  Text.record "MethodBuilder"
    [("name", Text.quoted m.name), ("return_type", m.returnType.written),
     ("params", Text.listing (Ty.writtenAll m.params)), ("modifiers", m.modifiers.written)]

/-- The draft of a constructor written out. -/
def ConstructorDraft.written (c : ConstructorDraft) : String :=
  Text.record "ConstructorBuilder"
    [("params", Text.listing (Ty.writtenAll c.params)), ("modifiers", c.modifiers.written)]

/-- The draft of a class written out. -/
def ClassDraft.written (d : ClassDraft) : String :=
  let superclass := match d.superclass with
    | some ty => Text.tagged "Some" [ty.written]
    | none => "None"
  Text.record "ClassBuilder"
    [("id", d.id.written), ("name", Text.quoted d.name), ("kind", d.kind.written),
     ("modifiers", d.modifiers.written),
     ("type_params", Text.listing (d.params.map TypeVariable.written)),
     ("superclass", superclass),
     ("interfaces", Text.listing (Ty.writtenAll d.interfaces)),
     ("fields", Text.listing (d.fields.map FieldDraft.written)),
     ("methods", Text.listing (d.methods.map MethodDraft.written)),
     ("constructors", Text.listing (d.constructors.map ConstructorDraft.written))]

end Introspection
