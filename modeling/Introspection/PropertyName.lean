import Introspection.Text.Case

/-!
# Property names

Accessor methods follow a naming convention: `getName` and `isActive` read the properties `name` and
`active`, and `setName` writes `name`.  The first character of what follows `get`, `is` or `set` is
written in lower case, unless the second one is in upper case, as in `getURL` for `URL`.
-/

namespace Introspection

/-- Whether a property is read or written. -/
inductive Direction where
  | get | set
deriving DecidableEq

/-- What an accessor of a direction is called. -/
def Direction.accessor : Direction → String
  | .get => "getter"
  | .set => "setter"

namespace PropertyName

/-- What follows `lead` in a name that begins with it. -/
def after? (lead name : String) : Option (List Char) :=
  lead.toList.isPrefixOf? name.toList

/-- A name with its first character in lower case, unless the second is in upper case. -/
def decapitalize : List Char → List Char
  | [] => []
  | first :: rest =>
    if rest.head?.any Text.isUppercase then first :: rest else Text.lowerOf first ++ rest

/-- The property that an accessor method of this name belongs to; `is` goes before `get`, and `get`
before `set`. -/
def ofAccessor? (name : String) : Option String :=
  ((after? "is" name <|> after? "get" name <|> after? "set" name).map decapitalize).map
    String.ofList

/-- Whether a name begins with `lead` and goes on. -/
def extends? (lead name : String) : Bool :=
  (after? lead name).any fun rest => !rest.isEmpty

/-- Whether a name is shaped like a getter's. -/
def isGetter (name : String) : Bool :=
  extends? "get" name || extends? "is" name

/-- Whether a name is shaped like a setter's. -/
def isSetter (name : String) : Bool :=
  extends? "set" name

/-- Whether a name is shaped like an accessor's. -/
def isAccessor (name : String) : Bool :=
  isGetter name || isSetter name

/-- Whether a name may be that of a property: generated names, which begin with a dollar sign, and
two reserved ones may not. -/
def isAllowed (name : String) : Bool :=
  !(name.toList.head? == some '$' || name == "serialVersionUID" || name == "class")

end PropertyName

end Introspection
