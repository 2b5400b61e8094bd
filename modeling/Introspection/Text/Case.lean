import Introspection.Text.CaseTable

/-!
# Letter case

Full, context-free case mapping: each character is mapped on its own, and its image may be several
characters long (`ß` becomes `SS`).  `upperOf` and `lowerOf` map one character, `upper` a text, and
`isUppercase` decides the property Uppercase.

On ASCII the functions are those of the core library; beyond it they read `Text/CaseTable`.
-/

namespace Introspection.Text

/-- The counterpart of a code point: its expansion, else the code point its run sends it to, else
the code point itself. -/
def counterpart (runs : List CaseRun) (expansions : List (Nat × List Nat)) (code : Nat) :
    List Nat :=
  match expansions.find? (·.1 == code) with
  | some (_, image) => image
  | none =>
    match runs.find? (·.contains code) with
    | some run => [(code + run.shift).toNat]
    | none => [code]

/-- The upper-case form of a character. -/
def upperOf (c : Char) : List Char :=
  if c.toNat < 0x80 then [c.toUpper]
  else (counterpart upperRuns upperExpansions c.toNat).map Char.ofNat

/-- The lower-case form of a character. -/
def lowerOf (c : Char) : List Char :=
  if c.toNat < 0x80 then [c.toLower]
  else (counterpart lowerRuns lowerExpansions c.toNat).map Char.ofNat

/-- The upper-case form of a text, character by character. -/
def upper (s : String) : String :=
  String.ofList (s.toList.flatMap upperOf)

/-- Whether a character has the property Uppercase. -/
def isUppercase (c : Char) : Bool :=
  if c.toNat < 0x80 then c.isUpper else uppercaseRuns.any (·.contains c.toNat)

/-- Upper-casing works piece by piece. -/
theorem toList_upper_append (s t : String) :
    (upper (s ++ t)).toList = (upper s).toList ++ (upper t).toList := by
  simp [upper]

end Introspection.Text
