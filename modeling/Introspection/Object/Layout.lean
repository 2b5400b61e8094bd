import Introspection.Data.Assoc
import Introspection.Object.Program

/-!
# Layouts

The layout of a class says what its objects look like: a list of slots, one for each field with the
value that a new object has there, and a dispatch table, which gives for each method the body that
an object of this class runs.  The slots of a class come before those of its superclass, so the
first slot of a name belongs to the most derived class.

A slot is found by its key or by its bare name (`Layout.position?`).  Should a key occur twice, the
later slot answers to the key, while the name means the earlier one.
-/

namespace Introspection

/-- What identifies a method in a dispatch table: its name and the runtime classes of its
parameters, but not what it returns. -/
structure MethodSlot where
  /-- The name. -/
  name : String
  /-- The runtime classes of the parameters. -/
  params : List ClassRef
deriving DecidableEq

/-- The kinds of members. -/
inductive MemberKind where
  | field | method | constructor
deriving DecidableEq

/-- What identifies a member of a class: its place among those of its kind. -/
structure MemberId where
  /-- The declaring class. -/
  owner : ClassId
  /-- The kind. -/
  kind : MemberKind
  /-- The place among the declared members of the kind. -/
  index : Nat
deriving DecidableEq

/-- A body in a dispatch table, with the method that declares it. -/
structure Implementation where
  /-- The method whose body it is. -/
  method : MemberId
  /-- What it does. -/
  body : MethodBody

/-- For each method that can be dispatched, the body to run. -/
abbrev DispatchTable := Assoc MethodSlot Implementation

/-- A dispatch table written out, as the sorted list of its methods with their numbers of
parameters. -/
def DispatchTable.written (t : DispatchTable) : String :=
  let names := t.keys.map fun slot => slot.name ++ "/" ++ toString slot.params.length
  Text.record "VTable"
    [("slots", Text.listing ((names.mergeSort fun a b => decide (a ≤ b)).map Text.quoted))]

/-- The shape of the objects of one class. -/
structure Layout where
  /-- The class. -/
  classId : ClassId
  /-- Whether there can be objects of the class. -/
  instantiable : Bool
  /-- The fields with their initial values, the most derived class first. -/
  slots : List (FieldKey × Value)
  /-- The bodies that the objects run. -/
  dispatch : DispatchTable

/-- The place of the last element with a property. -/
def lastIndex? {α : Type} (p : α → Bool) : List α → Option Nat
  | [] => none
  | a :: as =>
    match lastIndex? p as with
    | some i => some (i + 1)
    | none => if p a then some 0 else none

namespace Layout

/-- The keys of the fields, in order. -/
def keys (l : Layout) : List FieldKey :=
  l.slots.map (·.1)

/-- The slot that a selector means. -/
def position? (l : Layout) : FieldSelector → Option Nat
  | .key key => lastIndex? (· == key) l.keys
  | .name name => l.keys.findIdx? (·.name == name)

/-- The key that a bare name means. -/
def keyOfName? (l : Layout) (name : String) : Option FieldKey :=
  l.keys.find? (·.name == name)

end Layout

/-- The place of the last element with a property is a place of the list. -/
theorem lastIndex?_lt {α : Type} {p : α → Bool} {as : List α} {i : Nat}
    (h : lastIndex? p as = some i) : i < as.length := by
  induction as generalizing i with
  | nil => simp [lastIndex?] at h
  | cons a as ih =>
    unfold lastIndex? at h
    split at h
    · rename_i j hj
      have := ih hj
      simp at h ⊢
      omega
    · split at h <;> simp at h ⊢
      omega

/-- A selector means a place among the keys. -/
theorem Layout.position?_lt (l : Layout) {field : FieldSelector} {i : Nat}
    (h : l.position? field = some i) : i < l.keys.length := by
  cases field with
  | key key => exact lastIndex?_lt h
  | name name => exact (List.findIdx?_eq_some_iff_getElem.1 h).1

end Introspection
