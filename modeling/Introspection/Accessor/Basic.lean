import Introspection.Error

/-!
# Accessors

An accessor reads or writes one property of an object: through a method, or directly through a
field.  A property whose candidates cannot be reduced to one has an ambiguous accessor, which stands
for one of them and explains why it cannot be used.

Two accessors are the same (`Accessor.same`) if they do the same thing with the same member.
-/

namespace Introspection

/-- What reads or writes a property. -/
inductive Accessor where
  /-- Through a method. -/
  | method (m : Method)
  /-- By reading a field. -/
  | readField (f : Field)
  /-- By writing a field. -/
  | writeField (f : Field)
  /-- Not at all; `m` is one of the candidates. -/
  | ambiguous (m : Method) (cause : Ambiguity)

/-- A method with one parameter writes, any other one reads. -/
def Method.direction (m : Method) : Direction :=
  if m.params.length = 1 then .set else .get

/-- The runtime class of the value that a method takes when it writes, and returns otherwise. -/
def Method.valueClass (m : Method) : ClassRef :=
  if m.params.length = 1 then m.firstParamClass else m.returnClass

namespace Accessor

/-- The member behind the accessor. -/
def member : Accessor → Member
  | method m => m.toMember
  | readField f => f.toMember
  | writeField f => f.toMember
  | ambiguous m _ => m.toMember

/-- The class that declares the member. -/
def declaring (a : Accessor) : ClassId :=
  a.member.declaring

/-- Whether the accessor reads or writes. -/
def direction : Accessor → Direction
  | method m => m.direction
  | readField _ => .get
  | writeField _ => .set
  | ambiguous m _ => m.direction

/-- The runtime class of the value read or written. -/
def valueClass : Accessor → ClassRef
  | method m => m.valueClass
  | readField f => f.type.erasure
  | writeField f => f.type.erasure
  | ambiguous m _ => m.valueClass

/-- Whether the accessor is ambiguous. -/
def isAmbiguous : Accessor → Bool
  | ambiguous _ _ => true
  | _ => false

/-- Whether two accessors do the same thing with the same member, and if they are ambiguous give
the same explanation. -/
def same : Accessor → Accessor → Bool
  | method a, method b => a.id == b.id
  | readField a, readField b => a.id == b.id
  | writeField a, writeField b => a.id == b.id
  | ambiguous a c, ambiguous b d => a.id == b.id && c.message == d.message
  | _, _ => false

/-- The accessor written out. -/
def written : Accessor → String
  | method m => Text.tagged "Method" [m.qualifiedName]
  | readField f => Text.tagged "GetField" [f.qualifiedName]
  | writeField f => Text.tagged "SetField" [f.qualifiedName]
  | ambiguous _ cause => Text.tagged "Ambiguous" [Text.quoted cause.message]

end Accessor

end Introspection
