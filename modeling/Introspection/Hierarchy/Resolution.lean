import Introspection.Hierarchy.Subtyping

/-!
# Resolving written types

A type written inside one class, the *declaring* class, may mention that class's type parameters.
Seen from a *source*, a subclass or an instance of a generic one, those parameters stand for what
the chain of supertypes between the two binds them to.  `Hierarchy.resolve` puts that in their
place.

The chain is found step by step: from a class it goes to the first supertype, the superclass before
the interfaces, that leads to the declaring class (`stepTowards?`).  On the way a type argument that
is a type parameter of the class left behind is replaced by the argument that the source has for it.
-/

namespace Introspection

/-- Why a type cannot be resolved. -/
inductive ResolveError where
  /-- A type variable is looked at through a type that is no class; the type's name is given. -/
  | invalidSource (found : String)
deriving DecidableEq

/-- The text of a resolution error. -/
def ResolveError.message : ResolveError → String
  | .invalidSource found =>
    "Source type must be a declared class or a parameterized type, but was: " ++ found

namespace Ty

mutual

/-- Puts a type in the place of every type variable outside bounds, or passes on the first
failure to find one. -/
def substitute {ε : Type} (image : VariableId → List Ty → Except ε Ty) : Ty → Except ε Ty
  | plain ref => .ok (plain ref)
  | parameterized raw args =>
    match substituteAll image args with
    | .ok args => .ok (parameterized raw args)
    | .error e => .error e
  | genericArray component =>
    match component.substitute image with
    | .ok component => .ok component.arrayOf
    | .error e => .error e
  | wildcard upper lower =>
    match substituteAll image upper, substituteAll image lower with
    | .ok upper, .ok lower => .ok (wildcard upper lower)
    | .error e, _ => .error e
    | _, .error e => .error e
  | var id bounds => image id bounds

/-- `Ty.substitute` on each type of a list. -/
def substituteAll {ε : Type} (image : VariableId → List Ty → Except ε Ty) :
    List Ty → Except ε (List Ty)
  | [] => .ok []
  | t :: ts =>
    match t.substitute image, substituteAll image ts with
    | .ok t, .ok ts => .ok (t :: ts)
    | .error e, _ => .error e
    | _, .error e => .error e

end

end Ty

namespace Hierarchy

/-- A type argument of a supertype of `id`, with a type parameter of `id` replaced by the argument
that the source has in its place. -/
def translateArg (h : Hierarchy) (id : ClassId) (sourceArgs : List Ty) (arg : Ty) : Ty :=
  match arg with
  | .var v _ => ((h.paramIndex? id v).bind (sourceArgs[·]?)).getD arg
  | _ => arg

/-- A supertype of a class as the source sees it: if both carry type arguments, those of the
supertype are translated. -/
def translate (h : Hierarchy) (id : ClassId) (source parent : Ty) : Ty :=
  match source, parent with
  | .parameterized _ sourceArgs, .parameterized raw args =>
    .parameterized raw (args.map (h.translateArg id sourceArgs))
  | _, _ => parent

/-- Whether a written supertype leads to the declaring class. -/
def leadsTo (h : Hierarchy) (declaring : ClassId) (parent : Ty) : Bool :=
  match parent.rawClass? with
  | some raw => h.isSubclass raw declaring
  | none => false

/-- The next type on the way from the source, of class `id`, to the declaring class. -/
def stepTowards? (h : Hierarchy) (declaring id : ClassId) (source : Ty) : Option Ty :=
  ((h.declaration id).supertypes.find? (h.leadsTo declaring)).map (h.translate id source)

/-- The argument that an instance of the declaring class has for one of its type parameters. -/
def boundArg? (h : Hierarchy) (declaring : ClassId) (v : VariableId) : Ty → Option Ty
  | .parameterized raw args =>
    if raw = declaring then (h.paramIndex? raw v).bind (args[·]?) else none
  | _ => none

/-- The type that a variable of the declaring class stands for, seen from a source: its first bound
where nothing binds it, the argument where the chain of supertypes ends in one, and `Object` where
the chain does not lead to the declaring class.  `none` if the chain is longer than `fuel`. -/
def imageWithin (h : Hierarchy) (declaring : ClassId) (v : VariableId) (bounds : List Ty) :
    (fuel : Nat) → (source : Ty) → Option Ty
  | 0, _ => none
  | fuel + 1, source =>
    match source.rawClass? with
    | none => some .object
    | some id =>
      if id = declaring then some (bounds.headD .object)
      else
        match h.stepTowards? declaring id source with
        | none => some .object
        | some parent =>
          match h.boundArg? declaring v parent with
          | some arg => some arg
          | none => h.imageWithin declaring v bounds fuel parent

/-- The type that a variable of the declaring class stands for, seen from a source.  A chain that
does not repeat a class has at most one step for each class of the table. -/
def image (h : Hierarchy) (source : Ty) (declaring : ClassId) (v : VariableId) (bounds : List Ty) :
    Except ResolveError Ty :=
  match source.rawClass? with
  | none => .error (.invalidSource (h.typeName source))
  | some _ =>
    .ok ((h.imageWithin declaring v bounds (h.declarations.length + 1) source).getD .object)

/-- A type written inside the declaring class, as the source sees it. -/
def resolve (h : Hierarchy) (ty source : Ty) (declaring : ClassId) : Except ResolveError Ty :=
  ty.substitute (h.image source declaring)

/-- Several types written inside the declaring class, as the source sees them. -/
def resolveAll (h : Hierarchy) (tys : List Ty) (source : Ty) (declaring : ClassId) :
    Except ResolveError (List Ty) :=
  Ty.substituteAll (h.image source declaring) tys

end Hierarchy

end Introspection
