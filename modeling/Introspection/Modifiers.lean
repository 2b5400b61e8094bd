import Introspection.Text.Structured

/-!
# Modifiers

The modifiers of a class or a member as a set of flags.  Three of the flags are visibilities; a
member shows at most one of them, which `withVisibility` puts in the place of the one before.
`render` writes the modifiers in the order in which declarations list them.
-/

namespace Introspection

/-- A set of modifier flags. -/
structure Modifiers where
  /-- The flags, one bit each. -/
  bits : UInt16
deriving DecidableEq

namespace Modifiers

/-- No modifier. -/
def none : Modifiers := ⟨0x0000⟩

/-- Visible everywhere. -/
def publicFlag : Modifiers := ⟨0x0001⟩

/-- Visible in the declaring class alone. -/
def privateFlag : Modifiers := ⟨0x0002⟩

/-- Visible in subclasses. -/
def protectedFlag : Modifiers := ⟨0x0004⟩

/-- Belonging to the class and not to its objects. -/
def staticFlag : Modifiers := ⟨0x0008⟩

/-- Not to be changed, overridden or extended. -/
def finalFlag : Modifiers := ⟨0x0010⟩

/-- Without an implementation of its own. -/
def abstractFlag : Modifiers := ⟨0x0020⟩

/-- A method that only forwards to one of another signature. -/
def bridgeFlag : Modifiers := ⟨0x0040⟩

/-- Not written in any source. -/
def syntheticFlag : Modifiers := ⟨0x0080⟩

/-- The three visibilities. -/
def visibilities : Modifiers := ⟨0x0007⟩

/-- Whether every flag of `b` is in `a`. -/
def contains (a b : Modifiers) : Bool :=
  (a.bits &&& b.bits) == b.bits

/-- The flags of either set. -/
def union (a b : Modifiers) : Modifiers :=
  ⟨a.bits ||| b.bits⟩

/-- The flags of `a` that are not in `b`. -/
def difference (a b : Modifiers) : Modifiers :=
  ⟨a.bits &&& ~~~b.bits⟩

/-- The flags of `a`, with `visibility` in the place of its visibilities. -/
def withVisibility (a visibility : Modifiers) : Modifiers :=
  (a.difference visibilities).union visibility

/-- Whether the public flag is set. -/
def isPublic (m : Modifiers) : Bool := m.contains publicFlag

/-- Whether the private flag is set. -/
def isPrivate (m : Modifiers) : Bool := m.contains privateFlag

/-- Whether the static flag is set. -/
def isStatic (m : Modifiers) : Bool := m.contains staticFlag

/-- Whether the final flag is set. -/
def isFinal (m : Modifiers) : Bool := m.contains finalFlag

/-- Whether the abstract flag is set. -/
def isAbstract (m : Modifiers) : Bool := m.contains abstractFlag

/-- Whether the bridge flag is set. -/
def isBridge (m : Modifiers) : Bool := m.contains bridgeFlag

/-- The words of the flags, in the order in which they are written. -/
def words : List (Modifiers × String) :=
  [(publicFlag, "public"), (privateFlag, "private"), (protectedFlag, "protected"),
   (abstractFlag, "abstract"), (staticFlag, "static"), (finalFlag, "final"),
   (bridgeFlag, "bridge"), (syntheticFlag, "synthetic")]

/-- The modifiers as a declaration writes them, separated by blanks. -/
def render (m : Modifiers) : String :=
  " ".intercalate ((words.filter fun word => m.contains word.1).map (·.2))

/-- The modifiers written out, as a number. -/
def written (m : Modifiers) : String :=
  Text.tagged "Modifiers" [toString m.bits.toNat]

end Modifiers

end Introspection
