import Introspection.Value

/-!
# Bodies

What a method or a constructor does when it runs, as a tree of steps.  A body may read and write the
fields of the objects it has been given, go on in a way that depends on what it read, and at the end
return a value or fail.  It has no other effect: in particular a body can neither change who may use
a member nor any permission.

A field of an object is reached in two ways.  By its key, which names the declaring class as well,
one field is meant; by its bare name, the first field of that name in the layout of the object.
-/

namespace Introspection

/-- What identifies a field of an object: a subclass may declare a field of the same name, which is
another one. -/
structure FieldKey where
  /-- The class that declares the field. -/
  owner : ClassId
  /-- The name of the field. -/
  name : String
deriving DecidableEq

/-- Which field of an object is meant. -/
inductive FieldSelector where
  /-- The field with this key. -/
  | key (key : FieldKey)
  /-- The first field of this name. -/
  | name (name : String)
deriving DecidableEq

/-- A computation over the fields of objects that returns an `α` or fails with a reason. -/
inductive Program (α : Type) where
  /-- Returns a result. -/
  | done (result : α)
  /-- Fails. -/
  | fail (reason : String)
  /-- Reads a field, and goes on with its value or with the knowledge that there is none. -/
  | read (target : ObjectRef) (field : FieldSelector) (next : Option Value → Program α)
  /-- Writes a field, and goes on with whether there was one to write. -/
  | write (target : ObjectRef) (field : FieldSelector) (value : Value) (next : Bool → Program α)

namespace Program

/-- Runs a program, and another one with its result. -/
def andThen {α β : Type} (p : Program α) (f : α → Program β) : Program β :=
  match p with
  | done result => f result
  | fail reason => fail reason
  | read target field next => read target field fun value => (next value).andThen f
  | write target field value next => write target field value fun found => (next found).andThen f

/-- Going on from a result and then from the next one is going on from the result at once. -/
theorem andThen_andThen {α β γ : Type} (p : Program α) (f : α → Program β) (g : β → Program γ) :
    (p.andThen f).andThen g = p.andThen fun a => (f a).andThen g := by
  induction p with
  | done result => rfl
  | fail reason => rfl
  | read target field next ih => exact congrArg (read target field) (funext ih)
  | write target field value next ih => exact congrArg (write target field value) (funext ih)

end Program

/-- The body of a method: from the receiver, which is `null` for a static method, and the
arguments. -/
abbrev MethodBody := Value → List Value → Program Value

/-- The body of a constructor: from the new object and the arguments. -/
abbrev ConstructorBody := ObjectRef → List Value → Program Unit

namespace MethodBody

/-- The body that returns a field of its receiver; `field` is the name it was declared with. -/
def reading (field : String) (key : Option FieldKey) : MethodBody := fun receiver _ =>
  match receiver with
  | .object target =>
    match key with
    | some key =>
      .read target (.key key) fun
        | some value => .done value
        | none => .fail ("no field '" ++ field ++ "'")
    | none => .fail ("no field '" ++ field ++ "'")
  | _ => .fail ("no receiver to read '" ++ field ++ "' from")

/-- The body that puts its first argument into a field of its receiver; `field` is the name it was
declared with. -/
def writing (field : String) (key : Option FieldKey) : MethodBody := fun receiver args =>
  match receiver with
  | .object target =>
    match key with
    | some key =>
      .write target (.key key) (args.headD .null) fun
        | true => .done .null
        | false => .fail ("no field '" ++ field ++ "'")
    | none => .fail ("no field '" ++ field ++ "'")
  | _ => .fail ("no receiver to write '" ++ field ++ "' on")

end MethodBody

end Introspection
