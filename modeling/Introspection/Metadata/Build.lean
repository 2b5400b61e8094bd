import Introspection.Metadata.Basic
import Introspection.Metadata.Selection

/-!
# Building metadata

`Metadata.ofClass` looks into a registered class.  A record shows each of its methods without
parameters as a property of the same name.  Any other class shows what its getters and setters make
of it; what no method covers is read and written directly, through the fields of the class chain,
the most derived first.

The type of a property is the declared one seen from the class, as a runtime class.
-/

namespace Introspection

namespace Hierarchy

/-- A type written inside the declaring class of a member as a runtime class, seen from a class. -/
def resolvedClass (h : Hierarchy) (source : ClassId) (ty : Ty) (declaring : ClassId) :
    Except ReflectionError ClassRef :=
  match h.resolve ty (.ofClass source) declaring with
  | .ok resolved => .ok resolved.collapse
  | .error e => .error (.unresolvable e)

/-- The runtime class of the first parameter of a method, seen from a class. -/
def resolvedParam (h : Hierarchy) (source : ClassId) (m : Method) :
    Except ReflectionError ClassRef :=
  match h.resolveAll m.params (.ofClass source) m.declaring with
  | .ok resolved => .ok (resolved.headD .object).collapse
  | .error e => .error (.unresolvable e)

/-! ### Methods -/

/-- The property that a method reads. -/
def readBy (h : Hierarchy) (source : ClassId) (m : Method) (accessor : Accessor) :
    Except ReflectionError Property :=
  (h.resolvedClass source m.returnType m.declaring).map (Property.mk accessor)

/-- The property that a method writes. -/
def writtenBy (h : Hierarchy) (source : ClassId) (m : Method) (accessor : Accessor) :
    Except ReflectionError Property :=
  (h.resolvedParam source m).map (Property.mk accessor)

/-- What a group of getters makes of a property. -/
def getterOf (h : Hierarchy) (source : ClassId) (group : String × List Method) :
    Except ReflectionError (List (String × Property)) :=
  match group.2 with
  | [] => .ok []
  | first :: rest =>
    let (m, ambiguous) := h.pickGetter first rest
    let accessor : Accessor :=
      if ambiguous then
        .ambiguous m (.getters group.1 (h.refName (.declared m.declaring)))
      else .method m
    (h.readBy source m accessor).map fun p => [(group.1, p)]

/-- The class that a setter of a property should take: the one that its getter returns, if the
getter is definite. -/
def wantedClass (getters : PropertyTable) (property : String) : Option ClassRef :=
  if (getters.accessors.find? property).any (·.isAmbiguous) then none
  else getters.types.find? property

/-- What a group of setters makes of a property, in the order in which it is recorded. -/
def setterOf (h : Hierarchy) (source : ClassId) (getters : PropertyTable)
    (group : String × List Method) : Except ReflectionError (List (String × Property)) :=
  (h.recordedSetters group.1 (wantedClass getters group.1) none group.2).mapM fun choice =>
    (h.writtenBy source choice.method choice.accessor).map fun p => (group.1, p)

/-- The getters among some methods. -/
def gettersOf (h : Hierarchy) (source : ClassId) (methods : List Method) :
    Except ReflectionError PropertyTable := do
  let groups ← Registry.candidates Method.isGetter methods
  let entries ← groups.entries.mapM (h.getterOf source)
  return .ofList entries.flatten

/-- The setters among some methods, given the getters. -/
def settersOf (h : Hierarchy) (source : ClassId) (getters : PropertyTable)
    (methods : List Method) : Except ReflectionError PropertyTable := do
  let groups ← Registry.candidates Method.isSetter methods
  let entries ← groups.entries.mapM (h.setterOf source getters)
  return .ofList entries.flatten

/-- The properties of a record: each method without parameters under its own name, a later one in
the place of an earlier one. -/
def componentsOf (h : Hierarchy) (source : ClassId) (methods : List Method) :
    Except ReflectionError PropertyTable := do
  let entries ← (methods.filter (·.params.isEmpty)).mapM fun m =>
    (h.readBy source m (.method m)).map fun p => (m.name, p)
  return .ofList entries

/-! ### Fields -/

/-- A table of properties with one more, unless it has one of that name. -/
def addMissing (properties : PropertyTable) (name : String) (p : Property) : PropertyTable :=
  if properties.contains name then properties else properties.record name p

/-- The properties with those added that a field provides: it is written unless it is static and
final, and read in any case. -/
def addField (h : Hierarchy) (source : ClassId) (properties : Properties) (f : Field) :
    Except ReflectionError Properties :=
  if PropertyName.isAllowed f.name then
    (h.resolvedClass source f.type f.declaring).map fun type =>
      { getters := addMissing properties.getters f.name ⟨.readField f, type⟩
        setters :=
          if f.modifiers.isFinal && f.modifiers.isStatic then properties.setters
          else addMissing properties.setters f.name ⟨.writeField f, type⟩ }
  else .ok properties

end Hierarchy

namespace Registry

/-- The fields that a class and its superclasses declare, from the class upwards. -/
def chainFields (r : Registry) (id : ClassId) : Except ReflectionError (List Field) := do
  let chain ← (r.superclassChain id).mapM r.classInfo
  return chain.flatMap (·.fields)

/-- The properties of a class that is no record, from its collected methods. -/
def ordinaryProperties (r : Registry) (id : ClassId) (methods : List Method) :
    Except ReflectionError Properties := do
  let getters ← r.hierarchy.gettersOf id methods
  let setters ← r.hierarchy.settersOf id getters methods
  let fields ← r.chainFields id
  fields.foldlM (r.hierarchy.addField id) ⟨getters, setters⟩

/-- The properties of a record, from its collected methods. -/
def recordProperties (r : Registry) (id : ClassId) (methods : List Method) :
    Except ReflectionError Properties := do
  let getters ← r.hierarchy.componentsOf id methods
  return ⟨getters, .empty⟩

end Registry

/-- The metadata of a registered class. -/
def Metadata.ofClass (r : Registry) (id : ClassId) : Except ReflectionError Metadata := do
  let c ← r.classInfo id
  let methods ← r.collectedMethods id
  let properties ←
    if c.isRecord then r.recordProperties id methods else r.ordinaryProperties id methods
  return ⟨properties, id, c.name, c.defaultConstructor?⟩

end Introspection
