import Introspection.Text.Quoted
import Introspection.Text.Structured
import Introspection.Types.Basic

/-!
# Written types

Types written out in full, constructor by constructor, as messages about malformed declarations
quote them: `Parameterized(ParameterizedType { raw: ClassId(7), args: [...] })`.
-/

namespace Introspection

open Text

/-- A class id written out. -/
def ClassId.written (id : ClassId) : String :=
  tagged "ClassId" [toString id.index]

/-- A primitive type written out. -/
def Primitive.written : Primitive → String
  | .boolean => "Boolean"
  | .byte => "Byte"
  | .short => "Short"
  | .char => "Char"
  | .int => "Int"
  | .long => "Long"
  | .float => "Float"
  | .double => "Double"
  | .void => "Void"

/-- A runtime class written out. -/
def ClassRef.written : ClassRef → String
  | primitive p => tagged "Primitive" [p.written]
  | declared id => tagged "Declared" [id.written]
  | array component => tagged "Array" [component.written]

/-- The owner of a type variable written out. -/
def VariableOwner.written : VariableOwner → String
  | classOwner id => tagged "Class" [id.written]
  | methodOwner id method => record "Method" [("class", id.written), ("method", quoted method)]

/-- A type variable written out, its bounds being written already. -/
def VariableId.writtenWith (id : VariableId) (bounds : List String) : String :=
  record "TypeVariable"
    [("name", quoted id.name), ("owner", id.owner.written), ("bounds", listing bounds)]

mutual

/-- A type written out. -/
def Ty.written : Ty → String
  | .plain ref => tagged "Class" [ref.written]
  | .parameterized raw args =>
    tagged "Parameterized"
      [record "ParameterizedType" [("raw", raw.written), ("args", listing (Ty.writtenAll args))]]
  | .genericArray component => tagged "GenericArray" [component.written]
  | .wildcard upper lower =>
    tagged "Wildcard" [record "WildcardType"
      [("upper", listing (Ty.writtenAll upper)), ("lower", listing (Ty.writtenAll lower))]]
  | .var id bounds => tagged "Variable" [id.writtenWith (Ty.writtenAll bounds)]

/-- Every type of a list written out. -/
def Ty.writtenAll : List Ty → List String
  | [] => []
  | t :: ts => t.written :: Ty.writtenAll ts

end

/-- A type parameter written out. -/
def TypeVariable.written (v : TypeVariable) : String :=
  v.id.writtenWith (Ty.writtenAll v.bounds)

end Introspection
