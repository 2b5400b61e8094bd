import Introspection.Member.Basic
import Introspection.Object.Heap
import Introspection.Permission.Store

/-!
# Using members

What happens when a field is read or written, a method called or an object constructed, without any
intermediary.  A member may be used if it is public or if its override has been set
(`State.permits`); a final field of an object may be written only if its override has been set, and
a static final one never.

The `State` holds all that changes: objects, the values of static fields, the overrides and the
permissions.  Bodies change the objects alone.
-/

namespace Introspection

/-- All that using members changes. -/
structure State where
  /-- The objects. -/
  heap : Heap
  /-- The values of the static fields that have been written. -/
  statics : Assoc MemberId Value
  /-- The members that may be used although they are not public. -/
  overrides : List MemberId
  /-- The permissions in force. -/
  permissions : PermissionStore

/-- Why a call of a member failed. -/
inductive CallFault where
  /-- What a field should be read from is no object. -/
  | notReadable (field : String) (target : Value)
  /-- What a field should be written on is no object. -/
  | notWritable (field : String) (target : Value)
  /-- The object has no such field. -/
  | noSlot (classId : ClassId) (field : String)
  /-- The field is static and final. -/
  | staticFinal (field : String)
  /-- The number of arguments does not fit. -/
  | argumentCount (expected got : Nat)
  /-- What a method should be invoked on is no object. -/
  | notInvocable (method : String) (target : Value)
  /-- There is no body to run. -/
  | noImplementation (method : String)
  /-- There can be no objects of the class. -/
  | abstractClass (name : String)
  /-- The body failed. -/
  | body (reason : String)
  /-- A field was to be read with arguments. -/
  | unexpectedArguments (got : Nat)
  /-- A field was to be written with other than one value. -/
  | notOneValue (got : Nat)
deriving DecidableEq

/-- The text of a fault. -/
def CallFault.message : CallFault → String
  | notReadable field target => "cannot read field " ++ field ++ " from " ++ target.written
  | notWritable field target => "cannot write field " ++ field ++ " on " ++ target.written
  | noSlot id field => "object of " ++ id.written ++ " has no field " ++ field
  | staticFinal field => "cannot set static final field " ++ field
  | argumentCount expected got =>
    "wrong number of arguments: expected " ++ toString expected ++ ", got " ++ toString got
  | notInvocable method target => "cannot invoke " ++ method ++ " on " ++ target.written
  | noImplementation method => method ++ " has no implementation"
  | abstractClass name => "cannot instantiate abstract class " ++ name
  | body reason => reason
  | unexpectedArguments got => "expected no arguments, got " ++ toString got
  | notOneValue got => "expected exactly one value, got " ++ toString got

/-- How a call of a member ends if it does not return. -/
inductive CallError where
  /-- The member may not be used. -/
  | illegalAccess
  /-- The member was used, and failed. -/
  | fault (cause : CallFault)
deriving DecidableEq

namespace State

/-- The state in which nothing has happened yet. -/
def initial : State := ⟨.empty, .empty, [], .initial⟩

/-- Whether the override of a member has been set. -/
def isAccessible (s : State) (id : MemberId) : Bool :=
  s.overrides.contains id

/-- Sets or clears the override of a member. -/
def setAccessible (s : State) (id : MemberId) (on : Bool) : State :=
  { s with
    overrides :=
      if on then (if id ∈ s.overrides then s.overrides else id :: s.overrides)
      else s.overrides.filter fun other => ¬ other = id }

/-- Setting or clearing an override concerns one member. -/
theorem isAccessible_setAccessible (s : State) (id other : MemberId) (on : Bool) :
    (s.setAccessible id on).isAccessible other =
      if other = id then on else s.isAccessible other := by
  by_cases heq : other = id
  · subst heq
    cases on
    · simp [setAccessible, isAccessible]
    · by_cases hmem : other ∈ s.overrides <;> simp [setAccessible, isAccessible, hmem]
  · cases on
    · simp [setAccessible, isAccessible, heq]
    · by_cases hmem : id ∈ s.overrides <;> simp [setAccessible, isAccessible, hmem, heq]

/-- Whether a member may be used. -/
def permits (s : State) (m : Member) : Bool :=
  m.modifiers.isPublic || s.isAccessible m.id

/-- Runs the body of a method. -/
def runBody (s : State) (body : MethodBody) (receiver : Value) (args : List Value) :
    Except CallError Value × State :=
  match (body receiver args).run s.heap with
  | (.ok value, heap) => (.ok value, { s with heap := heap })
  | (.error reason, heap) => (.error (.fault (.body reason)), { s with heap := heap })

end State

namespace Field

/-- The value of the field when it is static. -/
def staticValue (f : Field) (s : State) : Value :=
  (s.statics.find? f.id).getD f.initial

/-- Whether writing the field is refused because the field is final. -/
def finality (f : Field) (s : State) : Option CallError :=
  if f.modifiers.isFinal then
    if f.modifiers.isStatic then some (.fault (.staticFinal f.qualifiedName))
    else if s.isAccessible f.id then none
    else some .illegalAccess
  else none

/-- Reads the field; the target of a static field does not matter. -/
def read (f : Field) (s : State) (target : Value) : Except CallError Value :=
  if !s.permits f.toMember then .error .illegalAccess
  else if f.modifiers.isStatic then .ok (f.staticValue s)
  else
    match target with
    | .object ref =>
      match s.heap.read? ref (.key f.key) with
      | some value => .ok value
      | none => .error (.fault (.noSlot ref.classId f.qualifiedName))
    | _ => .error (.fault (.notReadable f.name target))

/-- Writes the field; the target of a static field does not matter. -/
def write (f : Field) (s : State) (target value : Value) : Except CallError State :=
  if !s.permits f.toMember then .error .illegalAccess
  else
    match f.finality s with
    | some refusal => .error refusal
    | none =>
      if f.modifiers.isStatic then .ok { s with statics := s.statics.insert f.id value }
      else
        match target with
        | .object ref =>
          match s.heap.write? ref (.key f.key) value with
          | some heap => .ok { s with heap := heap }
          | none => .error (.fault (.noSlot ref.classId f.qualifiedName))
        | _ => .error (.fault (.notWritable f.name target))

end Field

namespace Method

/-- The body that a call on an object runs: the one of the object's class, unless the method is
private or that class has none; then the method's own. -/
def dispatch (m : Method) (s : State) (ref : ObjectRef) : Option MethodBody :=
  let own := m.body?
  if m.modifiers.isPrivate then own
  else
    match (s.heap.find? ref).bind (·.layout.dispatch.find? m.slot) with
    | some implementation => some implementation.body
    | none => own

/-- Calls the method; the target of a static method does not matter, and its body gets none. -/
def call (m : Method) (s : State) (target : Value) (args : List Value) :
    Except CallError Value × State :=
  if !s.permits m.toMember then (.error .illegalAccess, s)
  else if args.length ≠ m.params.length then
    (.error (.fault (.argumentCount m.params.length args.length)), s)
  else if m.modifiers.isStatic then
    match m.body? with
    | some body => s.runBody body .null args
    | none => (.error (.fault (.noImplementation m.qualifiedName)), s)
  else
    match target with
    | .object ref =>
      match m.dispatch s ref with
      | some body => s.runBody body target args
      | none => (.error (.fault (.noImplementation m.qualifiedName)), s)
    | _ => (.error (.fault (.notInvocable m.name target)), s)

end Method

namespace Constructor

/-- Makes a new object and runs the constructor on it. -/
def call (c : Constructor) (s : State) (args : List Value) : Except CallError Value × State :=
  if !s.permits c.toMember then (.error .illegalAccess, s)
  else if !c.layout.instantiable then (.error (.fault (.abstractClass c.ownerName)), s)
  else if args.length ≠ c.params.length then
    (.error (.fault (.argumentCount c.params.length args.length)), s)
  else
    let (ref, heap) := s.heap.allocate c.layout
    match c.body? with
    | none => (.ok (.object ref), { s with heap := heap })
    | some body =>
      match (body ref args).run heap with
      | (.ok (), heap) => (.ok (.object ref), { s with heap := heap })
      | (.error reason, heap) => (.error (.fault (.body reason)), { s with heap := heap })

end Constructor

end Introspection
