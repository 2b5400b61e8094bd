import Introspection.Config.Basic
import Introspection.Toml.Document

/-!
# Reading configurations

How settings are found in a configuration tree.  They stand in the table `reflect`; what is missing
there keeps its default, names that mean nothing are passed over, and a node of the wrong kind
spoils the whole.  Where a table of settings is expected an array may stand as well, with the
settings in their order.  A date or a time counts as a table with its form as the only entry.
-/

namespace Introspection

open Toml

namespace Config

/-- The node of a setting that may be given by its name or by its place; a node that is neither a
table nor an array has no settings at all. -/
def setting? (node : Node) (name : String) (place : Nat) : Option (Option Node) :=
  match node with
  | .table _ entries => some (Entries.node? entries name)
  | .array items => some items[place]?
  | .tables items => some items[place]?
  | .moment _ => some none
  | _ => none

/-- A truth value. -/
def boolean? : Node → Option Bool
  | .boolean b => some b
  | _ => none

/-- A text. -/
def text? : Node → Option String
  | .text s => some s
  | _ => none

/-- A map from names to texts. -/
def texts? : Node → Option (NameMap String)
  | .table _ entries =>
    (entries.mapM fun entry => (text? entry.2).map fun s => (entry.1, s)).map NameMap.ofList
  | .moment form => some (.ofList [("moment", form)])
  | _ => none

/-- A setting that is read if it is there and keeps its default if not. -/
def orDefault {α : Type} (read : Node → Option α) (default : α) : Option Node → Option α
  | some node => read node
  | none => some default

/-- The permissions of a configuration. -/
def permissions? (node : Node) : Option (String × NameMap String) := do
  let global ← orDefault text? default.globalPermission (← setting? node "global" 0)
  let classes ← orDefault texts? default.classPermissions (← setting? node "classes" 1)
  return (global, classes)

/-- The configuration in the node of the table `reflect`. -/
def settings? (node : Node) : Option Config := do
  let cacheEnabled ←
    orDefault boolean? default.cacheEnabled (← setting? node "class_cache_enabled" 0)
  let (global, classes) ←
    orDefault permissions? (default.globalPermission, default.classPermissions)
      (← setting? node "permissions" 1)
  return ⟨cacheEnabled, global, classes⟩

/-- The configuration in a tree. -/
def ofEntries? (entries : Entries) : Option Config :=
  orDefault settings? default (entries.node? "reflect")

/-- The configuration that a text gives, checked. -/
def ofText (text : String) : Except ReflectionError Config :=
  match (Toml.parse? text).bind ofEntries? with
  | none => .error .malformedConfig
  | some c => c.validate.map fun _ => c

/-- The configuration that the content of a file gives; without content there is no file. -/
def ofFile (content : Option ByteArray) : Except ReflectionError Config :=
  match content with
  | none => .error (.unreadableFile .missing)
  | some bytes =>
    match String.fromUTF8? bytes with
    | none => .error (.unreadableFile .notText)
    | some text => ofText text

end Config

end Introspection
