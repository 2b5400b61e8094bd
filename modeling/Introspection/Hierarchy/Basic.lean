import Introspection.Types.Basic

/-!
# Class hierarchies

A hierarchy is a table of declarations: for each class its name, its type parameters, and its
superclass and interfaces as they are written.  A place of the table may be empty, and a class may
name one that the table does not hold; what is not there has no name and no supertypes.

`Hierarchy.typeName` writes types the way source code does.
-/

namespace Introspection

/-- What a hierarchy knows about one class. -/
structure Declaration where
  /-- The name, if the class has been named. -/
  name : Option String
  /-- The type parameters, in order. -/
  params : List TypeVariable
  /-- The superclass as written. -/
  superclass : Option Ty
  /-- The interfaces as written, in order. -/
  interfaces : List Ty

namespace Declaration

/-- A place without a class. -/
def vacant : Declaration := ⟨none, [], none, []⟩

/-- The class behind the written superclass. -/
def rawSuperclass (d : Declaration) : Option ClassId :=
  d.superclass.bind Ty.rawClass?

/-- The classes behind the written interfaces. -/
def rawInterfaces (d : Declaration) : List ClassId :=
  d.interfaces.filterMap Ty.rawClass?

/-- The written supertypes: the superclass, then the interfaces. -/
def supertypes (d : Declaration) : List Ty :=
  d.superclass.toList ++ d.interfaces

/-- The classes behind the written supertypes. -/
def parents (d : Declaration) : List ClassId :=
  d.rawSuperclass.toList ++ d.rawInterfaces

end Declaration

/-- A table of declarations; the place in the table is the id of the class. -/
structure Hierarchy where
  /-- The declarations, by id. -/
  declarations : List Declaration

namespace Hierarchy

/-- The declaration of a class, the vacant one if the table has none. -/
def declaration (h : Hierarchy) (id : ClassId) : Declaration :=
  (h.declarations[id.index]?).getD .vacant

/-- The type parameters of a class. -/
def params (h : Hierarchy) (id : ClassId) : List TypeVariable :=
  (h.declaration id).params

/-- The place of a variable among the type parameters of a class. -/
def paramIndex? (h : Hierarchy) (id : ClassId) (v : VariableId) : Option Nat :=
  (h.params id).findIdx? (·.id == v)

/-- The name of a runtime class; a class without a name is written by its number. -/
def refName (h : Hierarchy) : ClassRef → String
  | .primitive p => p.keyword
  | .declared id => (h.declaration id).name.getD ("#" ++ toString id.index)
  | .array component => h.refName component ++ "[]"

mutual

/-- The name of a type as source code writes it. -/
def typeName (h : Hierarchy) : Ty → String
  | .plain ref => h.refName ref
  | .parameterized raw args =>
    h.refName (.declared raw) ++ "<" ++ ", ".intercalate (h.typeNames args) ++ ">"
  | .genericArray component => h.typeName component ++ "[]"
  | .wildcard _ (bound :: _) => "? super " ++ h.typeName bound
  | .wildcard [] [] => "?"
  | .wildcard [.plain (.declared ⟨0⟩)] [] => "?"
  | .wildcard upper [] => "? extends " ++ " & ".intercalate (h.typeNames upper)
  | .var id _ => id.name

/-- The names of several types. -/
def typeNames (h : Hierarchy) : List Ty → List String
  | [] => []
  | t :: ts => h.typeName t :: h.typeNames ts

end

end Hierarchy

end Introspection
