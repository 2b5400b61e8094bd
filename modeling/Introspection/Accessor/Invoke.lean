import Introspection.Accessor.Basic

/-!
# Using accessors

An accessor uses its member.  If the use is refused for lack of access, and the permissions of the
declaring class allow it, the override of the member is set and the member is used once more
(`State.withOverride`); otherwise access is denied, and nothing has changed.
-/

namespace Introspection

/-- How the error of a member is reported. -/
def CallError.report (member : Member) : CallError → ReflectionError
  | .illegalAccess => .accessDenied member.qualifiedName
  | .fault cause => .invocationFailure member.qualifiedName cause

/-- The outcome of using a member, with its error reported. -/
def Member.reported (member : Member) {α : Type} :
    Except CallError α × State → Except ReflectionError α × State
  | (.ok value, s) => (.ok value, s)
  | (.error e, s) => (.error (e.report member), s)

/-- Uses a member, and if that is refused uses it once more with its override set, provided that
the permissions of its class allow this kind of use. -/
def State.withOverride (s : State) (member : Member) (kind : AccessKind) {α : Type}
    (use : State → Except CallError α × State) : Except ReflectionError α × State :=
  match use s with
  | (.error .illegalAccess, s') =>
    if s'.permissions.canControl member.declaring kind then
      member.reported (use (s'.setAccessible member.id true))
    else (.error (.accessDenied member.qualifiedName), s')
  | outcome => member.reported outcome

namespace Field

/-- Reading the field as a step that leaves the state as it is. -/
def reading (f : Field) (target : Value) (s : State) : Except CallError Value × State :=
  (f.read s target, s)

/-- Writing the field as a step that returns `null`, and leaves the state as it is if it fails. -/
def writing (f : Field) (target value : Value) (s : State) : Except CallError Value × State :=
  match f.write s target value with
  | .ok s' => (.ok .null, s')
  | .error e => (.error e, s)

end Field

namespace Accessor

/-- Uses the accessor on a target: a getter takes no argument, a setter the new value. -/
def invoke (a : Accessor) (s : State) (target : Value) (args : List Value) :
    Except ReflectionError Value × State :=
  match a with
  | method m => s.withOverride m.toMember .invoke (m.call · target args)
  | readField f =>
    match args with
    | [] => s.withOverride f.toMember .read (f.reading target)
    | _ => (.error (.invocationFailure f.qualifiedName (.unexpectedArguments args.length)), s)
  | writeField f =>
    match args with
    | [value] => s.withOverride f.toMember .write (f.writing target value)
    | _ => (.error (.invocationFailure f.qualifiedName (.notOneValue args.length)), s)
  | ambiguous _ cause => (.error (.ambiguousMember cause), s)

end Accessor

/-- Makes a new object with a constructor without arguments. -/
def Constructor.construct (c : Constructor) (s : State) : Except ReflectionError Value × State :=
  s.withOverride c.toMember .invoke (c.call · [])

end Introspection
