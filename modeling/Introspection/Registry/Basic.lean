import Introspection.Error
import Introspection.Registry.Draft

/-!
# Registries

A registry holds the registered classes.  The place of a class is its id, and a place may be
reserved without a class in it.  An index of the names tells under which id a class is registered
(`Registry.find?`).

A registry shows a `Hierarchy` of what is registered, and all questions about supertypes are
answered there.
-/

namespace Introspection

/-- A registered class. -/
structure ClassInfo where
  /-- The id. -/
  id : ClassId
  /-- The name. -/
  name : String
  /-- The kind. -/
  kind : ClassKind
  /-- The modifiers. -/
  modifiers : Modifiers
  /-- The type parameters. -/
  params : List TypeVariable
  /-- The superclass, as written. -/
  superclass : Option Ty
  /-- The interfaces, as written. -/
  interfaces : List Ty
  /-- The declared fields. -/
  fields : List Field
  /-- The declared methods. -/
  methods : List Method
  /-- The declared constructors. -/
  constructors : List Constructor
  /-- The layout of the objects of the class. -/
  layout : Layout

namespace ClassInfo

/-- Whether the class is an interface. -/
def isInterface (c : ClassInfo) : Bool :=
  c.kind == .interface

/-- Whether the class is a record. -/
def isRecord (c : ClassInfo) : Bool :=
  c.kind == .record

/-- What the hierarchy knows about the class. -/
def declaration (c : ClassInfo) : Declaration :=
  ⟨some c.name, c.params, c.superclass, c.interfaces⟩

/-- The first constructor without parameters. -/
def defaultConstructor? (c : ClassInfo) : Option Constructor :=
  c.constructors.find? (·.params.isEmpty)

end ClassInfo

/-- A table of classes, by id, with an index of their names. -/
structure Registry where
  /-- The places, each with its class if one is registered there. -/
  slots : List (Option ClassInfo)
  /-- The ids of the registered classes, by name. -/
  names : Assoc String ClassId

namespace Registry

/-- The class registered in a place. -/
def class? (r : Registry) (id : ClassId) : Option ClassInfo :=
  (r.slots[id.index]?).join

/-- The class registered in a place, or the error that there is none. -/
def classInfo (r : Registry) (id : ClassId) : Except ReflectionError ClassInfo :=
  match r.class? id with
  | some c => .ok c
  | none => .error (.unknownClass id)

/-- The registered classes, by id. -/
def registered (r : Registry) : List ClassInfo :=
  r.slots.filterMap id

/-- The class of a name. -/
def find? (r : Registry) (name : String) : Option ClassId :=
  r.names.find? name

/-- The number of registered classes. -/
def size (r : Registry) : Nat :=
  r.names.size

/-- The declaration in a place; a place without a class declares nothing. -/
def declarationOf : Option ClassInfo → Declaration
  | some c => c.declaration
  | none => .vacant

/-- The hierarchy of the registered classes. -/
def hierarchy (r : Registry) : Hierarchy :=
  ⟨r.slots.map declarationOf⟩

/-- The public methods of an interface and of all interfaces it extends, each interface once, in
depth-first preorder. -/
def interfaceMethods (r : Registry) (id : ClassId) : List Method :=
  (r.hierarchy.preorder .interfaces id).flatMap fun id =>
    match r.class? id with
    | some c => c.methods.filter (·.modifiers.isPublic)
    | none => []

/-- A class and its superclasses, from the class upwards. -/
def superclassChain (r : Registry) (id : ClassId) : List ClassId :=
  r.hierarchy.preorder .superclass id

/-- The registry written out, as the sorted list of its classes' names. -/
def written (r : Registry) : String :=
  Text.record "ClassRegistry"
    [("classes",
      Text.listing ((r.names.keys.mergeSort fun a b => decide (a ≤ b)).map Text.quoted))]

end Registry

end Introspection
