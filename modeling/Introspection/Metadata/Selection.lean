import Introspection.Accessor.Basic
import Introspection.Hierarchy.Subtyping
import Introspection.Registry.Basic

/-!
# Choosing accessor methods

Several methods of a class may be accessors of one property.  The candidates are gathered from the
whole class chain (`Registry.collectedMethods`), grouped by property (`Registry.candidates`), and of
each group one is chosen.

Of getters the one with the narrowest type is chosen (`pickGetter`), and of two with the type
`boolean` the one whose name begins with `is`.  Of setters the first one that takes exactly what the
getter returns is chosen, and without such a one the narrowest (`recordedSetters`).  Where two
candidates do not compare, the property is ambiguous.
-/

namespace Introspection

namespace Registry

/-! ### Gathering -/

/-- The methods that a class brings in: its own, then those of its interfaces. -/
def contributedMethods (r : Registry) (c : ClassInfo) : List Method :=
  c.methods ++ (c.interfaces.filterMap Ty.rawClass?).flatMap r.interfaceMethods

/-- The methods whose signature neither has been seen nor stands earlier in the list. -/
def distinctFrom (seen : List Signature) : List Method → List Method
  | [] => []
  | m :: ms =>
    if m.signature ∈ seen then distinctFrom seen ms
    else m :: distinctFrom (m.signature :: seen) ms

/-- The methods of a class and of everything it inherits from, `Object` apart: no bridges, and of
methods with one signature the most derived. -/
def collectedMethods (r : Registry) (id : ClassId) : Except ReflectionError (List Method) := do
  let chain ← ((r.superclassChain id).takeWhile (· ≠ .object)).mapM r.classInfo
  return distinctFrom [] ((chain.flatMap r.contributedMethods).filter (!·.modifiers.isBridge))

/-! ### Grouping -/

/-- The property that a method is an accessor of, with the method. -/
def withProperty (m : Method) : Except ReflectionError (String × Method) :=
  match PropertyName.ofAccessor? m.name with
  | some property => .ok (property, m)
  | none => .error (.invalidAccessorName m.name)

/-- Adds a method to the candidates for its property. -/
def addCandidate (groups : Assoc String (List Method)) (candidate : String × Method) :
    Assoc String (List Method) :=
  groups.insert candidate.1 ((groups.find? candidate.1).getD [] ++ [candidate.2])

/-- The accessors among some methods, by property, both in order of discovery. -/
def candidates (isCandidate : Method → Bool) (methods : List Method) :
    Except ReflectionError (Assoc String (List Method)) := do
  let found ← (methods.filter isCandidate).mapM withProperty
  let allowed := found.filter fun candidate => PropertyName.isAllowed candidate.1
  return allowed.foldl addCandidate .empty

end Registry

/-- Whether a method can read a property. -/
def Method.isGetter (m : Method) : Bool :=
  m.params.isEmpty && PropertyName.isGetter m.name

/-- Whether a method can write a property. -/
def Method.isSetter (m : Method) : Bool :=
  m.params.length == 1 && PropertyName.isSetter m.name

/-- Whether the name of a method begins with `is`. -/
def Method.asksWhether (m : Method) : Bool :=
  (PropertyName.after? "is" m.name).isSome

/-! ### Choosing -/

namespace Hierarchy

/-- The getter chosen among the best so far and further candidates, and whether the choice ended in
a pair that does not compare. -/
def pickGetter (h : Hierarchy) (winner : Method) : List Method → Method × Bool
  | [] => (winner, false)
  | candidate :: rest =>
    if candidate.returnClass = winner.returnClass then
      if candidate.returnClass.isBoolean then
        h.pickGetter (if candidate.asksWhether then candidate else winner) rest
      else (winner, true)
    else if h.isAssignable candidate.returnClass winner.returnClass then h.pickGetter winner rest
    else if h.isAssignable winner.returnClass candidate.returnClass then
      h.pickGetter candidate rest
    else (winner, true)

/-- What has come out of comparing setters. -/
inductive SetterChoice where
  /-- One of them is the best. -/
  | winner (m : Method)
  /-- Two of them do not compare, the first of which is `m`. -/
  | ambiguous (m : Method) (cause : Ambiguity)

namespace SetterChoice

/-- The setter that a choice is about. -/
def method : SetterChoice → Method
  | winner m => m
  | ambiguous m _ => m

/-- The accessor that a choice leads to. -/
def accessor : SetterChoice → Accessor
  | winner m => .method m
  | ambiguous m cause => .ambiguous m cause

/-- Whether the choice has ended in a pair that does not compare. -/
def isAmbiguous : SetterChoice → Bool
  | winner _ => false
  | ambiguous _ _ => true

end SetterChoice

/-- The better one of the setter chosen so far and a further candidate; once two did not compare,
nothing further counts. -/
def narrower (h : Hierarchy) (property : String) (choice : Option SetterChoice)
    (candidate : Method) : SetterChoice :=
  match choice with
  | none => .winner candidate
  | some (.ambiguous m cause) => .ambiguous m cause
  | some (.winner current) =>
    if h.isAssignable current.firstParamClass candidate.firstParamClass then .winner candidate
    else if h.isAssignable candidate.firstParamClass current.firstParamClass then .winner current
    else
      .ambiguous current (.setters property (h.refName (.declared candidate.declaring))
        (h.refName current.firstParamClass) (h.refName candidate.firstParamClass))

/-- The setters recorded for a property, given the one chosen so far and further candidates.  An
ambiguity is recorded where it is found; the first candidate that takes exactly the wanted class is
recorded whatever came before, and so takes the place of an ambiguity. -/
def recordedSetters (h : Hierarchy) (property : String) (wanted : Option ClassRef)
    (choice : Option SetterChoice) : List Method → List SetterChoice
  | [] => choice.toList
  | candidate :: rest =>
    if wanted = some candidate.firstParamClass then
      (choice.filter (·.isAmbiguous)).toList ++ [.winner candidate]
    else h.recordedSetters property wanted (some (h.narrower property choice candidate)) rest

end Hierarchy

end Introspection
