import Introspection.Decimal.Notation
import Introspection.Types.Written

/-!
# Values

What fields hold, and what members take and return.  An object is present as a reference, which says
where the object is and of which class it is.

`Value.equals` is the equality of values: objects are equal if they are one object, and doubles
compare as numbers, so that no NaN equals itself.
-/

namespace Introspection

/-- A reference to an object. -/
structure ObjectRef where
  /-- The class of the object. -/
  classId : ClassId
  /-- The place of the object among all objects. -/
  address : Nat
deriving DecidableEq

/-- A dynamically typed value. -/
inductive Value where
  /-- The absent value. -/
  | null
  /-- A truth value. -/
  | bool (b : Bool)
  /-- A number of 32 bits. -/
  | int (i : Int32)
  /-- A number of 64 bits. -/
  | long (l : Int64)
  /-- A double-precision number. -/
  | double (d : Binary64)
  /-- A text. -/
  | str (s : String)
  /-- An object. -/
  | object (ref : ObjectRef)
deriving DecidableEq

namespace Value

/-- Equality of values. -/
def equals : Value → Value → Bool
  | null, null => true
  | bool a, bool b => a == b
  | int a, int b => a == b
  | long a, long b => a == b
  | double a, double b => a.equals b
  | str a, str b => a == b
  | object a, object b => a == b
  | _, _ => false

/-- Whether the value is absent. -/
def isNull : Value → Bool
  | null => true
  | _ => false

/-- The truth value, if it is one. -/
def asBool? : Value → Option Bool
  | bool b => some b
  | _ => none

/-- The number of 32 bits, if it is one. -/
def asInt? : Value → Option Int32
  | int i => some i
  | _ => none

/-- The number of 64 bits, if it is one. -/
def asLong? : Value → Option Int64
  | long l => some l
  | _ => none

/-- The double-precision number, if it is one. -/
def asDouble? : Value → Option Binary64
  | double d => some d
  | _ => none

/-- The text, if it is one. -/
def asStr? : Value → Option String
  | str s => some s
  | _ => none

/-- The object, if it is one. -/
def asObject? : Value → Option ObjectRef
  | object ref => some ref
  | _ => none

/-- A value written out: texts in quotes, long numbers behind their digits marked by an `L`, and
objects by their class. -/
def written : Value → String
  | null => "null"
  | bool b => if b then "true" else "false"
  | int i => toString i.toInt
  | long l => toString l.toInt ++ "L"
  | double d => d.render
  | str s => Text.quoted s
  | object ref => "<object of " ++ ref.classId.written ++ ">"

end Value

end Introspection
