import Introspection.Accessor.Invoke
import Introspection.Data.NameMap
import Introspection.Registry.Basic

/-!
# Metadata

The metadata of a class: its constructor without parameters, and for each property that can be read
or written the accessor to use and the runtime class of the value.

Names are looked up as they are spelled, and by `canonicalName?` in any letter case.  If several
spellings differ in letter case alone, the last of the writable ones counts, or else the last of the
readable ones.
-/

namespace Introspection

/-- One direction of a property. -/
structure Property where
  /-- What reads or writes it. -/
  accessor : Accessor
  /-- The runtime class of the value, with the type parameters resolved. -/
  type : ClassRef

/-- One direction of the properties of a class: what reads or writes them, and beside it the runtime
classes of their values. -/
structure PropertyTable where
  /-- What reads or writes a property, by its name. -/
  accessors : NameMap Accessor
  /-- The runtime class of the value of a property, by its name. -/
  types : NameMap ClassRef

namespace PropertyTable

/-- No properties. -/
def empty : PropertyTable := ⟨.empty, .empty⟩

/-- The names of the properties, ascending. -/
def names (t : PropertyTable) : List String :=
  t.accessors.names

/-- Whether there is a property of a name. -/
def contains (t : PropertyTable) (name : String) : Bool :=
  t.accessors.contains name

/-- The property of a name. -/
def find? (t : PropertyTable) (name : String) : Option Property :=
  match t.accessors.find? name, t.types.find? name with
  | some accessor, some type => some ⟨accessor, type⟩
  | _, _ => none

/-- The properties under their names, ascending. -/
def entries (t : PropertyTable) : List (String × Property) :=
  t.names.filterMap fun name => (t.find? name).map fun p => (name, p)

/-- Records a property, in the place of the one that has been recorded under its name. -/
def record (t : PropertyTable) (name : String) (p : Property) : PropertyTable :=
  ⟨t.accessors.insert name p.accessor, t.types.insert name p.type⟩

/-- The table in which some properties have been recorded one after the other. -/
def ofList (entries : List (String × Property)) : PropertyTable :=
  entries.foldl (fun t entry => t.record entry.1 entry.2) empty

/-- Whether two lists of accessors have the same names and the same accessors. -/
def sameAccessors : List (String × Accessor) → List (String × Accessor) → Bool
  | [], [] => true
  | (a, p) :: ps, (b, q) :: qs => a == b && p.same q && sameAccessors ps qs
  | _, _ => false

/-- Whether two tables have the same names, and under each the same accessor and class. -/
def same (t u : PropertyTable) : Bool :=
  sameAccessors t.accessors.entries u.accessors.entries && t.types == u.types

end PropertyTable

/-- The properties of a class. -/
structure Properties where
  /-- What can be read. -/
  getters : PropertyTable
  /-- What can be written. -/
  setters : PropertyTable

/-- No properties. -/
def Properties.empty : Properties := ⟨.empty, .empty⟩

/-- The metadata of a class. -/
structure Metadata extends Properties where
  /-- The class. -/
  classId : ClassId
  /-- The name of the class. -/
  className : String
  /-- The constructor without parameters. -/
  defaultConstructor? : Option Constructor

namespace Metadata

/-- The names of the properties that can be read, ascending. -/
def readable (m : Metadata) : List String :=
  m.getters.names

/-- The names of the properties that can be written, ascending. -/
def writable (m : Metadata) : List String :=
  m.setters.names

/-- What can be read, or what can be written. -/
def towards (m : Metadata) : Direction → PropertyTable
  | .get => m.getters
  | .set => m.setters

/-- What reads or writes a property, or the error that the class does not have it. -/
def accessor (m : Metadata) (direction : Direction) (name : String) :
    Except ReflectionError Accessor :=
  match (m.towards direction).accessors.find? name with
  | some a => .ok a
  | none => .error (.noSuchProperty name m.className direction)

/-- The runtime class of the value of a property, or the error that the class does not have it. -/
def valueType (m : Metadata) (direction : Direction) (name : String) :
    Except ReflectionError ClassRef :=
  match (m.towards direction).types.find? name with
  | some type => .ok type
  | none => .error (.noSuchProperty name m.className direction)

/-- One direction of a property, or the error that the class does not have it. -/
def property (m : Metadata) (direction : Direction) (name : String) :
    Except ReflectionError Property :=
  match m.accessor direction name, m.valueType direction name with
  | .ok accessor, .ok type => .ok ⟨accessor, type⟩
  | .error e, _ => .error e
  | _, .error e => .error e

/-- The spelling of a property name that is given in any letter case. -/
def canonicalName? (m : Metadata) (name : String) : Option String :=
  (m.readable ++ m.writable).reverse.find? fun other => Text.upper other == Text.upper name

/-- The constructor without parameters, or the error that there is none. -/
def defaultConstructor (m : Metadata) : Except ReflectionError Constructor :=
  match m.defaultConstructor? with
  | some c => .ok c
  | none => .error (.noDefaultConstructor m.className)

/-- Makes a new object of the class. -/
def newInstance (m : Metadata) (s : State) : Except ReflectionError Value × State :=
  match m.defaultConstructor with
  | .ok c => c.construct s
  | .error e => (.error e, s)

/-- Uses an accessor of a property. -/
def invoke (m : Metadata) (s : State) (direction : Direction) (name : String) (target : Value)
    (args : List Value) : Except ReflectionError Value × State :=
  match m.accessor direction name with
  | .ok a => a.invoke s target args
  | .error e => (.error e, s)

/-- Equality of metadata: the same class, the same constructor and the same properties. -/
def same (m n : Metadata) : Bool :=
  m.classId == n.classId
    && m.defaultConstructor?.map (·.id) == n.defaultConstructor?.map (·.id)
    && m.getters.same n.getters
    && m.setters.same n.setters

end Metadata

end Introspection
