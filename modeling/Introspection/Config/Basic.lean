import Introspection.Metadata.Cache
import Introspection.Permission.Parse

/-!
# Configurations

A configuration says whether metadata is cached, and gives a permission for all classes and
permissions for single ones, as texts.  `Config.validate` checks that every text is a permission;
`Config.apply` puts the permissions into a store, all of them or, if anything is wrong, none.
-/

namespace Introspection

/-- Settings. -/
structure Config where
  /-- Whether metadata is cached. -/
  cacheEnabled : Bool
  /-- The permission of every class without one of its own. -/
  globalPermission : String
  /-- The permissions of single classes, by the name of the class. -/
  classPermissions : NameMap String
deriving DecidableEq

/-- Reads a single permission, or fails. -/
def Permission.ofText (text : String) : Except ReflectionError Permission :=
  match Permission.parse? text.toList with
  | some p => .ok p
  | none => .error (.unknownPermission text)

namespace Config

/-- The settings where nothing is set: everything is cached and allowed. -/
def default : Config := ⟨true, "ALL", .empty⟩

/-- Reads a combined permission, or fails. -/
def permission (text : String) : Except ReflectionError Permission :=
  match Permission.parseCombined? text with
  | some p => .ok p
  | none => .error (.invalidPermission text)

/-- The first text that is no permission, the one for all classes before the others. -/
def validate (c : Config) : Except ReflectionError Unit := do
  let _ ← permission c.globalPermission
  let _ ← c.classPermissions.entries.mapM fun entry => permission entry.2
  return ()

/-- The class and the permission of an entry for a single class. -/
def entry (r : Registry) (e : String × String) : Except ReflectionError (ClassId × Permission) :=
  match r.find? e.1 with
  | some id => (permission e.2).map fun p => (id, p)
  | none => .error (.unknownName e.1)

/-- Puts permissions of single classes into a store. -/
def setClasses (store : PermissionStore) (entries : List (ClassId × Permission)) :
    PermissionStore :=
  entries.foldl (fun store e => (store.setClass? e.1 e.2).getD store) store

/-- The store with the permissions of the configuration. -/
def apply (c : Config) (r : Registry) (store : PermissionStore) :
    Except ReflectionError PermissionStore := do
  let global ← permission c.globalPermission
  let entries ← c.classPermissions.entries.mapM (entry r)
  match entries.find? fun e => store.isSealed e.1 with
  | some e => .error (.permissionsSealed e.1)
  | none => return setClasses (store.setGlobal global) entries

end Config

/-- A cache over a registry as the configuration wants it, and the store with its permissions. -/
def MetadataCache.ofConfig (r : Registry) (c : Config) (store : PermissionStore) :
    Except ReflectionError (MetadataCache × PermissionStore) :=
  (c.apply r store).map fun store => ((ofRegistry r).setEnabled c.cacheEnabled, store)

end Introspection
