/-!
# Configuration trees

What a configuration text says, as a tree: tables from names to nodes, arrays, and single values.
Numbers are checked when they are read, but no setting is a number, so what they are is not kept.

A table remembers where it comes from (`Origin`), because that decides what may be added to it later
on.  `within` walks along a path of names, makes the tables that are not there yet, and changes the
table at the end; `addPair` and `addSection` are the two ways in which a text adds to a tree.
-/

namespace Introspection.Toml

/-- Where a table comes from. -/
inductive Origin where
  /-- It has a header of its own, or is the whole text. -/
  | header
  /-- It was passed through on the path of a header. -/
  | path
  /-- It was passed through by a dotted name. -/
  | dotted
  /-- It is written between braces. -/
  | inline
deriving DecidableEq

/-- A node of the tree. -/
inductive Node where
  /-- A text. -/
  | text (s : String)
  /-- A truth value. -/
  | boolean (b : Bool)
  /-- A number, whichever it is. -/
  | number
  /-- A date, a time or both, in their usual form. -/
  | moment (form : String)
  /-- An array between brackets. -/
  | array (items : List Node)
  /-- A table. -/
  | table (origin : Origin) (entries : List (String × Node))
  /-- An array of tables that each have a header. -/
  | tables (items : List Node)

/-- The entries of a table, each under another name. -/
abbrev Entries := List (String × Node)

namespace Entries

/-- The node under a name. -/
def node? (entries : Entries) (name : String) : Option Node :=
  (List.find? (·.1 == name) entries).map (·.2)

/-- Puts a node in the place of the one under a name. -/
def replace (entries : Entries) (name : String) (node : Node) : Entries :=
  List.map (fun entry => if entry.1 == name then (name, node) else entry) entries

/-- Adds a node under a new name. -/
def add (entries : Entries) (name : String) (node : Node) : Entries :=
  entries ++ [(name, node)]

end Entries

/-- Changes the table at the end of a path.  A path may lead through the last table of an array, and
through tables of every origin but those between braces; a dotted name may not lead through a
table with a header of its own. -/
def within (byName : Bool) (change : Origin → Entries → Option Entries) :
    List String → Origin → Entries → Option Entries
  | [], origin, entries => change origin entries
  | name :: path, _, entries =>
    match entries.node? name with
    | none =>
      let origin := if byName then Origin.dotted else Origin.path
      (within byName change path origin []).map fun inner =>
        entries.add name (.table origin inner)
    | some (.table origin inner) =>
      if origin = .inline || (byName && origin = .header) then none
      else
        (within byName change path origin inner).map fun inner =>
          entries.replace name (.table origin inner)
    | some (.tables items) =>
      match items.getLast? with
      | some (.table origin inner) =>
        (within byName change path origin inner).map fun inner =>
          entries.replace name (.tables (items.dropLast ++ [.table origin inner]))
      | _ => none
    | some _ => none

/-- A name, dotted or not, and the node it stands for. -/
structure Pair where
  /-- What stands before the last dot. -/
  path : List String
  /-- The last part of the name. -/
  name : String
  /-- The node. -/
  node : Node

/-- Adds a pair to a table.  A dotted name may only add to tables that dotted names have made. -/
def addPair (origin : Origin) (entries : Entries) (pair : Pair) : Option Entries :=
  within true
    (fun reached inner =>
      if (reached == .dotted) == pair.path.isEmpty then none
      else if (inner.node? pair.name).isSome then none
      else some (inner.add pair.name pair.node))
    pair.path origin entries

/-- The table that pairs between braces make. -/
def inlineTable (pairs : List Pair) : Option Node :=
  (pairs.foldlM (addPair .inline) []).map (.table .inline)

/-- A header with the pairs below it. -/
structure Section where
  /-- Whether the header is one of an array of tables. -/
  ofArray : Bool
  /-- What stands before the last dot of the header. -/
  path : List String
  /-- The last part of the header. -/
  name : String
  /-- The pairs. -/
  pairs : List Pair

/-- Adds a section to a tree.  A table may get a header only once, and only if no dotted name has
made it. -/
def addSection (root : Entries) (s : Section) : Option Entries :=
  within false
    (fun _ inner =>
      if s.ofArray then do
        let table := Node.table .header (← s.pairs.foldlM (addPair .header) [])
        match inner.node? s.name with
        | none => some (inner.add s.name (.tables [table]))
        | some (.tables items) => some (inner.replace s.name (.tables (items ++ [table])))
        | some _ => none
      else
        match inner.node? s.name with
        | none =>
          (s.pairs.foldlM (addPair .header) []).map fun body =>
            inner.add s.name (.table .header body)
        | some (.table .path begun) =>
          (s.pairs.foldlM (addPair .header) begun).map fun body =>
            inner.replace s.name (.table .header body)
        | some _ => none)
    s.path .header root

/-- The tree of the pairs before the first header and the sections after it. -/
def assemble (pairs : List Pair) (sections : List Section) : Option Entries := do
  let root ← pairs.foldlM (addPair .header) []
  sections.foldlM addSection root

end Introspection.Toml
