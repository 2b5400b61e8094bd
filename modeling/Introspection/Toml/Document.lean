import Introspection.Toml.Node
import Introspection.Toml.Scalar

/-!
# Configuration texts

A configuration text is a list of pairs and headers, one a line.  `parse?` reads a whole text and
builds its tree, or answers nothing if the text is not well formed.
-/

namespace Introspection.Toml

/-- The depth of brackets and braces that no value reaches. -/
def nestingBelow : Nat := 80

/-- A value that begins with a letter, a digit or a sign. -/
def scalar? (s : List Char) : Option (Node × List Char) :=
  match s with
  | 't' :: 'r' :: 'u' :: 'e' :: rest => some (.boolean true, rest)
  | 'f' :: 'a' :: 'l' :: 's' :: 'e' :: rest => some (.boolean false, rest)
  | _ =>
    match moment? s with
    | some (form, rest) => some (.moment form, rest)
    | none => ((decimal? s).or (integer? s)).map fun rest => (.number, rest)

mutual

/-- A value at some depth. -/
def value? : (fuel depth : Nat) → List Char → Option (Node × List Char)
  | 0, _, _ => none
  | fuel + 1, depth, s =>
    match s with
    | '"' :: _ => (text? s).map fun (t, rest) => (.text t, rest)
    | '\'' :: _ => (text? s).map fun (t, rest) => (.text t, rest)
    | '[' :: rest =>
      if depth + 1 < nestingBelow then
        (items? fuel (depth + 1) rest).map fun (items, rest) => (.array items, rest)
      else none
    | '\x7b' :: rest =>
      if depth + 1 < nestingBelow then
        (firstPair? fuel (depth + 1) (skipSpace rest)).bind fun (pairs, rest) =>
          (inlineTable pairs).map fun table => (table, rest)
      else none
    | _ => scalar? s

/-- The rest of an array. -/
def items? : (fuel depth : Nat) → List Char → Option (List Node × List Char)
  | 0, _, _ => none
  | fuel + 1, depth, s =>
    match skipLines (s.length + 1) s with
    | none => none
    | some (']' :: rest) => some ([], rest)
    | some s =>
      match value? fuel depth s with
      | none => none
      | some (item, rest) =>
        match skipLines (rest.length + 1) rest with
        | some (',' :: rest) =>
          (items? fuel depth rest).map fun (items, rest) => (item :: items, rest)
        | some (']' :: rest) => some ([item], rest)
        | _ => none

/-- The rest of a table between braces, which may be empty. -/
def firstPair? : (fuel depth : Nat) → List Char → Option (List Pair × List Char)
  | 0, _, _ => none
  | fuel + 1, depth, s =>
    match s with
    | '\x7d' :: rest => some ([], rest)
    | _ => pairs? fuel depth s

/-- The rest of a table between braces, with at least one more pair. -/
def pairs? : (fuel depth : Nat) → List Char → Option (List Pair × List Char)
  | 0, _, _ => none
  | fuel + 1, depth, s =>
    match pair? fuel depth s with
    | none => none
    | some (pair, rest) =>
      match skipSpace rest with
      | ',' :: rest => (pairs? fuel depth rest).map fun (pairs, rest) => (pair :: pairs, rest)
      | '\x7d' :: rest => some ([pair], rest)
      | _ => none

/-- A name and its value. -/
def pair? : (fuel depth : Nat) → List Char → Option (Pair × List Char)
  | 0, _, _ => none
  | fuel + 1, depth, s =>
    match name? s with
    | some ((path, name), '=' :: rest) =>
      (value? fuel depth (skipSpace rest)).map fun (node, rest) => (⟨path, name, node⟩, rest)
    | _ => none

end

/-- A line of a text. -/
inductive Line where
  /-- A name and its value. -/
  | pair (pair : Pair)
  /-- The header of a table or of an array of tables. -/
  | header (ofArray : Bool) (path : List String) (name : String)

/-- A header of a table. -/
def header? (s : List Char) : Option (Line × List Char) := do
  let ((path, name), rest) ← name? s
  match rest with
  | ']' :: rest => return (.header false path name, ← lineEnd? rest)
  | _ => none

/-- A header of an array of tables. -/
def arrayHeader? (s : List Char) : Option (Line × List Char) := do
  let ((path, name), rest) ← name? s
  match rest with
  | ']' :: ']' :: rest => return (.header true path name, ← lineEnd? rest)
  | _ => none

/-- A line that is not blank, with the end of the line. -/
def line : List Char → Option (Line × List Char)
  | '[' :: '[' :: rest => arrayHeader? rest
  | '[' :: rest => header? rest
  | s => do
    let (pair, rest) ← pair? (4 * s.length + 4) 0 s
    return (.pair pair, ← lineEnd? rest)

/-- The lines of a text, without blank ones and comments. -/
def linesOf? : (fuel : Nat) → List Char → Option (List Line)
  | 0, _ => none
  | fuel + 1, s =>
    match skipSpace s with
    | [] => some []
    | '#' :: rest => (lineEnd? ('#' :: rest)).bind (linesOf? fuel)
    | '\n' :: rest => linesOf? fuel rest
    | '\r' :: rest => (newline? ('\r' :: rest)).bind (linesOf? fuel)
    | s => do
      let (first, rest) ← line s
      return first :: (← linesOf? fuel rest)

/-- The pairs before the first header, and the sections after it. -/
def sectionsOf : List Line → List Pair × List Section
  | [] => ([], [])
  | .pair pair :: lines =>
    let (pairs, sections) := sectionsOf lines
    (pair :: pairs, sections)
  | .header ofArray path name :: lines =>
    let (pairs, sections) := sectionsOf lines
    ([], ⟨ofArray, path, name, pairs⟩ :: sections)

/-- The mark that may stand in front of a text and does not count. -/
def byteOrderMark : Char := '\uFEFF'

/-- The tree of a text. -/
def parse? (text : String) : Option Entries :=
  let s := match text.toList with
    | c :: rest => if c = byteOrderMark then rest else c :: rest
    | [] => []
  (linesOf? (s.length + 1) s).bind fun lines =>
    let (pairs, sections) := sectionsOf lines
    assemble pairs sections

end Introspection.Toml
