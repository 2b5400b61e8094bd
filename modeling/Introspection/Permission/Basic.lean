/-!
# Permissions

A permission is a set of flags: for each kind of access, reading, writing and invoking, whether it
is allowed on public and on private members.  The named permissions are listed in `named`; every
other set of bits is written in hexadecimal.
-/

namespace Introspection

/-- A set of permission flags. -/
structure Permission where
  /-- The flags, one bit each. -/
  bits : UInt8
deriving DecidableEq

/-- What is done with a member. -/
inductive AccessKind where
  | read | write | invoke
deriving DecidableEq

namespace Permission

/-- No flag. -/
def nothing : Permission := ⟨0x00⟩

/-- Reading public fields. -/
def readPublic : Permission := ⟨0x01⟩

/-- Reading private fields. -/
def readPrivate : Permission := ⟨0x02⟩

/-- Writing public fields. -/
def writePublic : Permission := ⟨0x04⟩

/-- Writing private fields. -/
def writePrivate : Permission := ⟨0x08⟩

/-- Invoking public methods. -/
def invokePublic : Permission := ⟨0x10⟩

/-- Invoking private methods and constructors. -/
def invokePrivate : Permission := ⟨0x20⟩

/-- Reading all fields. -/
def readAll : Permission := ⟨0x03⟩

/-- Writing all fields. -/
def writeAll : Permission := ⟨0x0C⟩

/-- Invoking all methods and constructors. -/
def invokeAll : Permission := ⟨0x30⟩

/-- Every kind of access to public members. -/
def publicOnly : Permission := ⟨0x15⟩

/-- Every kind of access to every member. -/
def fullAccess : Permission := ⟨0x3F⟩

/-- Every bit. -/
def everything : Permission := ⟨0xFF⟩

/-- The permissions that have a name. -/
def named : List (String × Permission) :=
  [("NONE", nothing), ("READ_PUBLIC", readPublic), ("READ_PRIVATE", readPrivate),
   ("WRITE_PUBLIC", writePublic), ("WRITE_PRIVATE", writePrivate),
   ("INVOKE_PUBLIC", invokePublic), ("INVOKE_PRIVATE", invokePrivate), ("READ_ALL", readAll),
   ("WRITE_ALL", writeAll), ("INVOKE_ALL", invokeAll), ("PUBLIC_ONLY", publicOnly),
   ("FULL_ACCESS", fullAccess), ("ALL", everything)]

/-- Whether every flag of `q` is in `p`. -/
def contains (p q : Permission) : Bool :=
  (p.bits &&& q.bits) == q.bits

/-- The flags of either permission. -/
def union (p q : Permission) : Permission :=
  ⟨p.bits ||| q.bits⟩

/-- The flags of `p` that are not in `q`. -/
def difference (p q : Permission) : Permission :=
  ⟨p.bits &&& ~~~q.bits⟩

/-- A hexadecimal digit in upper case. -/
def hexDigit (n : Nat) : Char :=
  if n < 10 then Char.ofNat (48 + n) else Char.ofNat (55 + n)

/-- The name of a permission, or its bits as two hexadecimal digits behind `0x`. -/
def render (p : Permission) : String :=
  match named.find? (·.2 = p) with
  | some (name, _) => name
  | none => String.ofList
      ['0', 'x', hexDigit (p.bits.toNat / 16), hexDigit (p.bits.toNat % 16)]

end Permission

/-- The flag that lets a restricted member be used in this way. -/
def AccessKind.privateFlag : AccessKind → Permission
  | .read => .readPrivate
  | .write => .writePrivate
  | .invoke => .invokePrivate

end Introspection
