import Introspection.Registry.Basic

/-!
# Registration

How a draft becomes a registered class.  `Registry.reserve` makes room for a class,
`Registry.register` checks the draft and puts the class there.  A draft is refused if its place is
taken or was never reserved, if its name is in use, or if its supertypes are at fault; supertypes
have to be registered already, which keeps the hierarchy free of cycles.

`Registry.define` makes the class of a draft.  The slots of its layout are its own instance fields
followed by the slots of its superclass.  Its dispatch table is that of its superclass, with the
bodies of its own virtual methods put in, and with the bodies of interface methods where nothing
else has been found.
-/

namespace Introspection

/-! ### From drafts to members -/

namespace ClassDraft

/-- Whether the draft is one of an interface. -/
def isInterface (d : ClassDraft) : Bool :=
  d.kind == .interface

/-- What all members of the class have. -/
def member (d : ClassDraft) (kind : MemberKind) (index : Nat) (name : String)
    (modifiers : Modifiers) : Member :=
  ⟨⟨d.id, kind, index⟩, name, d.name, modifiers⟩

/-- A declared field; the fields of an interface are static and final. -/
def toField (d : ClassDraft) (index : Nat) (f : FieldDraft) : Field :=
  let modifiers :=
    if d.isInterface then (f.modifiers.union .staticFlag).union .finalFlag else f.modifiers
  ⟨d.member .field index f.name modifiers, f.type, f.initial⟩

/-- The declared fields. -/
def toFields (d : ClassDraft) : List Field :=
  d.fields.mapIdx d.toField

/-- A declared method, which is abstract if it has neither a body nor the static modifier; `keys`
are the fields that the class sees. -/
def toMethod (d : ClassDraft) (keys : List FieldKey) (index : Nat) (m : MethodDraft) : Method :=
  let modifiers :=
    if m.body?.isNone && !m.modifiers.isStatic then m.modifiers.union .abstractFlag
    else m.modifiers
  ⟨d.member .method index m.name modifiers, m.returnType, m.params, m.body?.map (·.bind keys)⟩

/-- The declared methods. -/
def toMethods (d : ClassDraft) (keys : List FieldKey) : List Method :=
  d.methods.mapIdx (d.toMethod keys)

/-- A declared constructor of objects with a layout. -/
def toConstructor (d : ClassDraft) (layout : Layout) (index : Nat) (c : ConstructorDraft) :
    Constructor :=
  ⟨d.member .constructor index "<init>" c.modifiers, c.params, c.body?, layout⟩

/-- The declared constructors; a class that declares none has the default one, an interface has
none. -/
def toConstructors (d : ClassDraft) (layout : Layout) : List Constructor :=
  let drafts :=
    if d.constructors.isEmpty && !d.isInterface then [ConstructorDraft.default]
    else d.constructors
  drafts.mapIdx (d.toConstructor layout)

end ClassDraft

/-! ### Layouts -/

namespace Layout

/-- The slots of a class with some fields below the slots of its superclass. -/
def slotsOf (fields : List Field) (inherited : List (FieldKey × Value)) :
    List (FieldKey × Value) :=
  (fields.filter (!·.modifiers.isStatic)).map (fun f => (f.key, f.initial)) ++ inherited

end Layout

namespace DispatchTable

/-- Puts the body of a virtual method in, in the place of the one that was there. -/
def override (t : DispatchTable) (m : Method) : DispatchTable :=
  if m.isVirtual then
    match m.implementation? with
    | some implementation => t.insert m.slot implementation
    | none => t
  else t

/-- Puts the body of a virtual method in where there is none. -/
def complete (t : DispatchTable) (m : Method) : DispatchTable :=
  if t.contains m.slot then t else DispatchTable.override t m

end DispatchTable

namespace Registry

/-- The class that a draft names as its superclass, if it is registered. -/
def parent? (r : Registry) (d : ClassDraft) : Option ClassInfo :=
  (d.superclass.bind Ty.rawClass?).bind r.class?

/-- The methods that the interfaces of a draft provide, those of one interface and of all above it
before those of the next one. -/
def providedMethods (r : Registry) (d : ClassDraft) : List Method :=
  (d.interfaces.filterMap Ty.rawClass?).flatMap r.interfaceMethods

/-- The slots of the class of a draft. -/
def slotsFor (r : Registry) (d : ClassDraft) : List (FieldKey × Value) :=
  Layout.slotsOf d.toFields (((r.parent? d).map (·.layout.slots)).getD [])

/-- The methods of the class of a draft. -/
def methodsFor (r : Registry) (d : ClassDraft) : List Method :=
  d.toMethods ((r.slotsFor d).map (·.1))

/-- The dispatch table of the class of a draft. -/
def dispatchFor (r : Registry) (d : ClassDraft) : DispatchTable :=
  let inherited := ((r.parent? d).map (·.layout.dispatch)).getD .empty
  (r.providedMethods d).foldl DispatchTable.complete
    ((r.methodsFor d).foldl DispatchTable.override inherited)

/-- The layout of the class of a draft. -/
def layoutFor (r : Registry) (d : ClassDraft) : Layout where
  classId := d.id
  instantiable := !d.isInterface && !d.modifiers.isAbstract
  slots := r.slotsFor d
  dispatch := r.dispatchFor d

/-- The class of a draft. -/
def define (r : Registry) (d : ClassDraft) : ClassInfo where
  id := d.id
  name := d.name
  kind := d.kind
  modifiers := d.modifiers
  params := d.params
  superclass := d.superclass
  interfaces := d.interfaces
  fields := d.toFields
  methods := r.methodsFor d
  constructors := d.toConstructors (r.layoutFor d)
  layout := r.layoutFor d

/-- The registry with the class of a draft in its place and its name in the index. -/
def install (r : Registry) (d : ClassDraft) : Registry :=
  ⟨r.slots.set d.id.index (some (r.define d)), r.names.insert d.name d.id⟩

/-! ### Reserving and registering -/

/-- Installing a class changes no place but its own. -/
theorem class?_install (r : Registry) (d : ClassDraft) (id : ClassId)
    (hd : d.id.index < r.slots.length) :
    (r.install d).class? id = if id = d.id then some (r.define d) else r.class? id := by
  by_cases heq : id = d.id
  · subst heq
    simp [install, class?, hd]
  · have hne : d.id.index ≠ id.index := by
      intro e
      apply heq
      cases id
      cases hid : d.id
      simp_all
    simp [install, class?, heq, List.getElem?_set_ne hne]

/-- Makes room for a class and begins its draft. -/
def reserve (r : Registry) (name : String) (kind : ClassKind) : ClassDraft × Registry :=
  (.ofKind ⟨r.slots.length⟩ name kind, ⟨r.slots ++ [none], r.names⟩)

/-- Making room for a class registers none. -/
theorem class?_reserve (r : Registry) (name : String) (kind : ClassKind) (id : ClassId) :
    (r.reserve name kind).2.class? id = r.class? id := by
  rcases Nat.lt_trichotomy id.index r.slots.length with hlt | heq | hgt
  · simp [reserve, class?, List.getElem?_append_left hlt]
  · simp [reserve, class?, heq]
  · have hlast : (r.slots ++ [none]).length ≤ id.index := by
      rw [List.length_append]
      exact hgt
    simp only [reserve, class?, List.getElem?_eq_none hlast,
      List.getElem?_eq_none (Nat.le_of_lt hgt)]

/-- What is wrong with the superclass of a draft. -/
def superclassFault? (r : Registry) (d : ClassDraft) : Option HierarchyFault :=
  match d.superclass with
  | none => none
  | some ty =>
    if d.isInterface then some .interfaceExtendsClass
    else
      match ty.rawClass? with
      | none => some (.superclassNotClass ty)
      | some id =>
        match r.class? id with
        | none => some (.superclassUnregistered id)
        | some c =>
          if c.isInterface then some (.superclassIsInterface c.name)
          else if c.modifiers.isFinal then some (.superclassIsFinal c.name)
          else none

/-- What is wrong with a type among the interfaces of a draft. -/
def interfaceFault? (r : Registry) (ty : Ty) : Option HierarchyFault :=
  match ty.rawClass? with
  | none => some (.interfaceNotClass ty)
  | some id =>
    match r.class? id with
    | none => some (.interfaceUnregistered id)
    | some c => if c.isInterface then none else some (.notInterface c.name)

/-- What is wrong with the supertypes of a draft, the superclass before the interfaces. -/
def hierarchyFault? (r : Registry) (d : ClassDraft) : Option HierarchyFault :=
  (r.superclassFault? d).or (d.interfaces.findSome? r.interfaceFault?)

/-- Registers the class of a draft. -/
def register (r : Registry) (d : ClassDraft) : Except ReflectionError Registry :=
  match r.slots[d.id.index]? with
  | none => .error (.notReserved d.id)
  | some (some _) => .error (.duplicateClass d.name)
  | some none =>
    if (r.find? d.name).isSome then .error (.duplicateClass d.name)
    else
      match r.hierarchyFault? d with
      | some fault => .error (.invalidHierarchy d.name fault)
      | none => .ok (r.install d)

/-! ### The first classes -/

/-- The drafts of the classes that every registry has: `Object`, and the classes of the values. -/
def initialDrafts : List ClassDraft :=
  let draft (index : Nat) (name : String) : ClassDraft := .ofKind ⟨index⟩ name .ordinary
  let number (index : Nat) (name : String) : ClassDraft :=
    { draft index name with superclass := some (.ofClass ⟨2⟩) }
  [{ draft 0 "Object" with superclass := none }, (draft 1 "String").asFinal,
   (draft 2 "Number").asAbstract, (number 3 "Integer").asFinal, (number 4 "Long").asFinal,
   (number 5 "Double").asFinal, (draft 6 "Boolean").asFinal]

/-- The registry with the first classes alone. -/
def initial : Registry :=
  initialDrafts.foldl install ⟨initialDrafts.map fun _ => none, .empty⟩

end Registry

end Introspection
