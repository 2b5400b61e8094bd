/-!
# Structured values in one line

The shapes in which structured values are written: `record` gives `Name { a: 1, b: 2 }`, `tagged`
gives `Name(1, 2)`, and `listing` gives `[1, 2]`.
-/

namespace Introspection.Text

/-- A list of written values in square brackets. -/
def listing (items : List String) : String :=
  "[" ++ ", ".intercalate items ++ "]"

/-- A name with written values in parentheses. -/
def tagged (name : String) (items : List String) : String :=
  name ++ "(" ++ ", ".intercalate items ++ ")"

/-- A name with labelled written values in braces; without any, the name alone. -/
def record (name : String) (fields : List (String × String)) : String :=
  match fields with
  | [] => name
  | _ => name ++ " \x7b " ++ ", ".intercalate (fields.map fun field => field.1 ++ ": " ++ field.2)
      ++ " \x7d"

end Introspection.Text
