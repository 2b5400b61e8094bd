import Introspection.Data.Assoc
import Introspection.Permission.Basic
import Introspection.Types.Basic

/-!
# Permission stores

A store holds a permission for all classes and may hold one for a single class, which then counts
instead (`resolve`).  The entry of a sealed class can no longer be set or cleared.

`canControl` answers the question that the accessors ask: may a restricted member that a class
declares be used in this way all the same?
-/

namespace Introspection

/-- The permissions in force. -/
structure PermissionStore where
  /-- The permission of every class without one of its own. -/
  globalDefault : Permission
  /-- The permissions of single classes. -/
  classes : Assoc ClassId Permission
  /-- The classes whose entry is fixed. -/
  sealedClasses : List ClassId

namespace PermissionStore

/-- The store that allows everything. -/
def initial : PermissionStore := ⟨.everything, .empty, []⟩

/-- Whether anything but the initial permission is in force. -/
def hasAnyRestrictions (s : PermissionStore) : Bool :=
  s.globalDefault != .everything || s.classes.size != 0

/-- Sets the permission of every class without one of its own. -/
def setGlobal (s : PermissionStore) (p : Permission) : PermissionStore :=
  { s with globalDefault := p }

/-- Whether the entry of a class is fixed. -/
def isSealed (s : PermissionStore) (id : ClassId) : Bool :=
  s.sealedClasses.contains id

/-- Sets the permission of a class, or answers nothing if the class is sealed. -/
def setClass? (s : PermissionStore) (id : ClassId) (p : Permission) : Option PermissionStore :=
  if s.isSealed id then none else some { s with classes := s.classes.insert id p }

/-- Takes the permission of a class away, or answers nothing if the class is sealed. -/
def clearClass? (s : PermissionStore) (id : ClassId) : Option PermissionStore :=
  if s.isSealed id then none else some { s with classes := s.classes.erase id }

/-- Fixes the entry of a class, or its absence. -/
def sealClass (s : PermissionStore) (id : ClassId) : PermissionStore :=
  { s with sealedClasses := id :: s.sealedClasses }

/-- The permission in force for the members that a class declares. -/
def resolve (s : PermissionStore) (id : ClassId) : Permission :=
  (s.classes.find? id).getD s.globalDefault

/-- Whether a restricted member that a class declares may be used in this way all the same. -/
def canControl (s : PermissionStore) (id : ClassId) (kind : AccessKind) : Bool :=
  (s.resolve id).contains kind.privateFlag

/-! ### The permission in force after each operation -/

/-- Only classes without a permission of their own follow the one of all classes. -/
theorem resolve_setGlobal (s : PermissionStore) (p : Permission) (id : ClassId) :
    (s.setGlobal p).resolve id = (s.classes.find? id).getD p := rfl

/-- Setting the permission of a class sets it there and nowhere else. -/
theorem resolve_of_setClass? {s s' : PermissionStore} {id : ClassId} {p : Permission}
    (h : s.setClass? id p = some s') (other : ClassId) :
    s'.resolve other = if other = id then p else s.resolve other := by
  unfold setClass? at h
  split at h
  · simp at h
  · obtain rfl := Option.some.inj h
    by_cases heq : other = id <;> simp [resolve, Assoc.find?_insert, heq]

/-- A class without a permission of its own follows the one of all classes. -/
theorem resolve_of_clearClass? {s s' : PermissionStore} {id : ClassId}
    (h : s.clearClass? id = some s') (other : ClassId) :
    s'.resolve other = if other = id then s.globalDefault else s.resolve other := by
  unfold clearClass? at h
  split at h
  · simp at h
  · obtain rfl := Option.some.inj h
    by_cases heq : other = id <;> simp [resolve, Assoc.find?_erase, heq]

/-- Sealing changes no permission. -/
theorem resolve_sealClass (s : PermissionStore) (id other : ClassId) :
    (s.sealClass id).resolve other = s.resolve other := rfl

end PermissionStore

end Introspection
