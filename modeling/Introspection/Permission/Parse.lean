import Introspection.Permission.Basic
import Introspection.Text.Blank
import Introspection.Text.Case

/-!
# Reading permissions

A single permission is read from its name, in any letter case, or from its bits, in decimal or in
hexadecimal behind `0x`.  A combined permission is a list of single ones between bars, with blank
space around each, and stands for their union; one part that cannot be read spoils the whole.
-/

namespace Introspection.Permission

/-- The value of a digit, of either letter case, in a base up to sixteen. -/
def digit? (base : Nat) (c : Char) : Option Nat :=
  let value :=
    if '0' ≤ c ∧ c ≤ '9' then c.toNat - 48
    else if 'a' ≤ c ∧ c ≤ 'f' then c.toNat - 87
    else if 'A' ≤ c ∧ c ≤ 'F' then c.toNat - 55
    else base
  if value < base then some value else none

/-- Reads digits after those read already, whose value is given. -/
def digitsFrom? (base : Nat) (value : Nat) : List Char → Option Nat
  | [] => some value
  | c :: cs =>
    match digit? base c with
    | some d => digitsFrom? base (value * base + d) cs
    | none => none

/-- Reads a number of at least one digit. -/
def digits? (base : Nat) : List Char → Option Nat
  | [] => none
  | cs => digitsFrom? base 0 cs

/-- Reads a number below 256, with a plus sign in front or none. -/
def byte? (base : Nat) (s : List Char) : Option UInt8 :=
  let digits := match s with
    | '+' :: rest => rest
    | _ => s
  match digits? base digits with
  | some n => if n < 256 then some n.toUInt8 else none
  | none => none

/-- Reads a single permission. -/
def parse? (s : List Char) : Option Permission :=
  let name := Text.upper (String.ofList s)
  match named.find? (·.1 = name) with
  | some (_, p) => some p
  | none =>
    match s with
    | '0' :: 'x' :: hex => (byte? 16 hex).map Permission.mk
    | _ => (byte? 10 s).map Permission.mk

/-- The parts of a text between its bars. -/
def splitBars : List Char → List (List Char)
  | [] => [[]]
  | c :: cs =>
    if c = '|' then [] :: splitBars cs
    else
      match splitBars cs with
      | [] => [[c]]
      | part :: parts => (c :: part) :: parts

/-- Adds the permissions read from some parts to one given. -/
def unionOfParts? (p : Permission) : List (List Char) → Option Permission
  | [] => some p
  | part :: parts =>
    match parse? (Text.trim part) with
    | some q => unionOfParts? (p.union q) parts
    | none => none

/-- Reads a combined permission. -/
def parseCombined? (s : String) : Option Permission :=
  unionOfParts? nothing (splitBars s.toList)

end Introspection.Permission
