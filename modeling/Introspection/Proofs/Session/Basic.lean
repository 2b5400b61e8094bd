import Introspection.Config.Basic
import Introspection.Proofs.Accessor.Override
import Introspection.Proofs.Registry.Reachable

/-!
# Sessions

A session is a registry with its objects, overrides and permissions, and the metadata that has been
built.  A run is any list of actions from the new session: registrations, changes of permissions,
metadata to be built, new objects, and uses of accessors.  Overrides are not set directly.

`use?` tells which member an action uses and in what way, and `fieldAccess?` which field it reads or
writes through an accessor of the field.
-/

namespace Introspection

/-- A registry with all that changes while it is used. -/
structure Session where
  /-- The registry. -/
  registry : Registry
  /-- The objects, overrides and permissions. -/
  state : State
  /-- The metadata built so far. -/
  built : List Metadata

/-- What can be done in a session. -/
inductive Action where
  /-- Reserves a place for a class, or registers one. -/
  | registry (call : RegistryCall)
  /-- Sets the permission of all classes without one of their own. -/
  | setGlobal (p : Permission)
  /-- Sets the permission of a class. -/
  | setClass (id : ClassId) (p : Permission)
  /-- Takes the permission of a class away. -/
  | clearClass (id : ClassId)
  /-- Fixes the permission of a class. -/
  | sealClass (id : ClassId)
  /-- Sets the permissions of a configuration. -/
  | configure (c : Config)
  /-- Builds the metadata of a class. -/
  | build (id : ClassId)
  /-- Makes an object with the metadata of a number. -/
  | construct (index : Nat)
  /-- Uses an accessor in the metadata of a number. -/
  | invoke (index : Nat) (direction : Direction) (name : String) (target : Value)
    (args : List Value)

/-- The field that an accessor reads or writes directly, and which of both it does. -/
def Accessor.fieldAccess? : Accessor → Option (Field × AccessKind)
  | readField f => some (f, .read)
  | writeField f => some (f, .write)
  | _ => none

namespace Session

/-- The session in which nothing has happened yet. -/
def initial : Session := ⟨.initial, .initial, []⟩

/-- The session with other permissions. -/
def withPermissions (s : Session) (p : PermissionStore) : Session :=
  { s with state := { s.state with permissions := p } }

/-- The outcome of using an accessor in the metadata of a number, if there is such metadata. -/
def invoke (s : Session) (index : Nat) (direction : Direction) (name : String) (target : Value)
    (args : List Value) : Option (Except ReflectionError Value × State) :=
  (s.built[index]?).map (·.invoke s.state direction name target args)

/-- The session after an action; an action that fails changes no more than it has done till then. -/
def step (s : Session) : Action → Session
  | .registry call => { s with registry := s.registry.after call }
  | .setGlobal p => s.withPermissions (s.state.permissions.setGlobal p)
  | .setClass id p =>
    s.withPermissions ((s.state.permissions.setClass? id p).getD s.state.permissions)
  | .clearClass id =>
    s.withPermissions ((s.state.permissions.clearClass? id).getD s.state.permissions)
  | .sealClass id => s.withPermissions (s.state.permissions.sealClass id)
  | .configure c =>
    match c.apply s.registry s.state.permissions with
    | .ok permissions => s.withPermissions permissions
    | .error _ => s
  | .build id =>
    match Metadata.ofClass s.registry id with
    | .ok m => { s with built := s.built ++ [m] }
    | .error _ => s
  | .construct index =>
    match s.built[index]? with
    | some m => { s with state := (m.newInstance s.state).2 }
    | none => s
  | .invoke index direction name target args =>
    match s.invoke index direction name target args with
    | some outcome => { s with state := outcome.2 }
    | none => s

/-- The session after a run. -/
def run (actions : List Action) : Session :=
  actions.foldl step initial

/-- An accessor in the metadata of a number. -/
def accessor? (s : Session) (index : Nat) (direction : Direction) (name : String) :
    Option Accessor :=
  (s.built[index]?).bind fun m => (m.towards direction).accessors.find? name

/-- The member that an action uses, and what it does with it. -/
def use? (s : Session) : Action → Option (Member × AccessKind)
  | .construct index =>
    ((s.built[index]?).bind (·.defaultConstructor?)).map fun c => (c.toMember, .invoke)
  | .invoke index direction name _ _ =>
    (s.accessor? index direction name).bind fun a => a.access?.map fun kind => (a.member, kind)
  | _ => none

/-- The field that an action reads or writes through an accessor of the field. -/
def fieldAccess? (s : Session) : Action → Option (Field × AccessKind)
  | .invoke index direction name _ _ =>
    (s.accessor? index direction name).bind Accessor.fieldAccess?
  | _ => none

theorem run_append (actions : List Action) (action : Action) :
    run (actions ++ [action]) = (run actions).step action := by
  simp [run]

variable {s : Session}

/-- Using an accessor in the metadata of a number is using the accessor. -/
theorem invoke_eq_of_accessor? {index : Nat} {direction : Direction} {name : String}
    {a : Accessor} (ha : s.accessor? index direction name = some a) (target : Value)
    (args : List Value) :
    s.invoke index direction name target args = some (a.invoke s.state target args) := by
  obtain ⟨m, hm, ha⟩ := Option.bind_eq_some_iff.1 ha
  simp [invoke, hm, Metadata.invoke, Metadata.accessor, ha]

/-- Without an accessor nothing happens. -/
theorem invoke_eq_of_accessor?_eq_none {index : Nat} {direction : Direction} {name : String}
    (ha : s.accessor? index direction name = none) (target : Value) (args : List Value)
    {outcome : Except ReflectionError Value × State}
    (houtcome : s.invoke index direction name target args = some outcome) :
    outcome.2 = s.state := by
  obtain ⟨m, hm, rfl⟩ := Option.map_eq_some_iff.1 houtcome
  have hnone : (m.towards direction).accessors.find? name = none := by
    simpa [accessor?, hm] using ha
  simp [Metadata.invoke, Metadata.accessor, hnone]

end Session

end Introspection
