/-!
# Double-precision numbers

A number of the binary64 format, given by its 64 bits: a sign, eleven bits of exponent and 52 bits
of fraction.  A finite number is `significand * 2 ^ exponent`.  `equals` is the comparison of the
format, under which a NaN differs from itself and the two zeros are equal.
-/

namespace Introspection

/-- A binary64 number by its bits. -/
structure Binary64 where
  /-- The 64 bits, the sign in front. -/
  bits : UInt64
deriving DecidableEq

namespace Binary64

/-- Whether the sign bit is set. -/
def isNegative (x : Binary64) : Bool :=
  (x.bits >>> 63) == 1

/-- The eleven bits of the exponent. -/
def exponentBits (x : Binary64) : Nat :=
  ((x.bits >>> 52) &&& 0x7FF).toNat

/-- The 52 bits of the fraction. -/
def fractionBits (x : Binary64) : Nat :=
  (x.bits &&& 0xFFFFFFFFFFFFF).toNat

/-- Whether the bits stand for no number. -/
def isNaN (x : Binary64) : Bool :=
  x.exponentBits == 0x7FF && x.fractionBits != 0

/-- Whether the bits stand for an infinity. -/
def isInfinite (x : Binary64) : Bool :=
  x.exponentBits == 0x7FF && x.fractionBits == 0

/-- Whether the number is zero, of either sign. -/
def isZero (x : Binary64) : Bool :=
  x.exponentBits == 0 && x.fractionBits == 0

/-- Equality of numbers: no NaN equals anything, and the two zeros are equal. -/
def equals (x y : Binary64) : Bool :=
  !x.isNaN && !y.isNaN && (x.bits == y.bits || (x.isZero && y.isZero))

/-- The significand of a finite number, the leading one included unless the number is subnormal. -/
def significand (x : Binary64) : Nat :=
  if x.exponentBits == 0 then x.fractionBits else Nat.pow 2 52 + x.fractionBits

/-- The power of two that the significand of a finite number is multiplied by. -/
def exponent (x : Binary64) : Int :=
  if x.exponentBits == 0 then -1074 else (x.exponentBits : Int) - 1075

/-- Whether the number below is nearer than the number above, as it is for a power of two. -/
def narrowBelow (x : Binary64) : Bool :=
  x.fractionBits == 0 && x.exponentBits > 1

end Binary64

end Introspection
