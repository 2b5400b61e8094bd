import Introspection.Decimal.Shortest

/-!
# Written numbers

How a binary64 number is written: with the fewest digits that read back, positionally from
`0.0001` up to but not including `10^16`, with a point in every positional form, and with an
exponent otherwise.
-/

namespace Introspection.Decimal

/-- Decimal exponents of the leading digit from which on numbers are written positionally. -/
def plainFrom : Int := -4

/-- The first decimal exponent of the leading digit that is written as an exponent again. -/
def plainBelow : Int := 16

/-- A decimal other than zero, laid out. -/
def layOut (d : Decimal) : String :=
  let digits := Nat.toDigits 10 d.digits
  let count : Int := digits.length
  let leading := d.exponent + count - 1
  if plainFrom ≤ leading ∧ leading < plainBelow then
    if d.exponent ≥ 0 then
      String.ofList (digits ++ List.replicate d.exponent.toNat '0' ++ ['.', '0'])
    else if leading ≥ 0 then
      let whole := (leading + 1).toNat
      String.ofList (digits.take whole ++ ['.'] ++ digits.drop whole)
    else
      String.ofList (['0', '.'] ++ List.replicate (-leading - 1).toNat '0' ++ digits)
  else
    let fraction := if digits.length > 1 then '.' :: digits.drop 1 else []
    String.ofList (digits.take 1 ++ fraction ++ ['e']) ++ toString leading

end Introspection.Decimal

namespace Introspection

/-- The written form of a binary64 number. -/
def Binary64.render (x : Binary64) : String :=
  if x.isNaN then "NaN"
  else
    let magnitude :=
      if x.isInfinite then "inf"
      else if x.isZero then "0.0"
      else (Decimal.shortest x).layOut
    if x.isNegative then "-" ++ magnitude else magnitude

end Introspection
