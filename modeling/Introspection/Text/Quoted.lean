import Introspection.Text.Printable

/-!
# Quoted texts

A text in double quotes that can be read back by eye: a quote, a backslash and the usual control
characters are written with a backslash and a letter, and every other character that is not
printable, or that would attach to its neighbour, by its code point in braces.
-/

namespace Introspection.Text

/-- The letter that stands for a character behind a backslash, if it has one. -/
def escapeLetter? : Char → Option Char
  | '"' => some '"'
  | '\\' => some '\\'
  | '\n' => some 'n'
  | '\r' => some 'r'
  | '\t' => some 't'
  | '\x00' => some '0'
  | _ => none

/-- How one character is written between the quotes. -/
def escaped (c : Char) : List Char :=
  match escapeLetter? c with
  | some letter => ['\\', letter]
  | none =>
    if attaches c || !isPrintable c then
      ['\\', 'u', '\x7b'] ++ Nat.toDigits 16 c.toNat ++ ['\x7d']
    else [c]

/-- A text between double quotes. -/
def quoted (s : String) : String :=
  String.ofList ('"' :: (s.toList.flatMap escaped ++ ['"']))

end Introspection.Text
