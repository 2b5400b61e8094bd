import Introspection.Proofs.Metadata.Origin

/-!
# Metadata in step

Metadata answers three questions about each direction of a property: which accessor it has, which
class its value has, and whether it is one of the names.  In the metadata of a registered class the
answers never drift apart (`Metadata.InStep`), and the class is that of the declared type of the
very member that the accessor uses, resolved as seen from the class.

That is so on every way on which a property is recorded, also where a setter takes the place of an
ambiguous one, because the accessor and the class are always recorded together.
-/

namespace Introspection

/-- The type, as written, of what an accessor reads or writes: what its method returns or takes
first, or the type of its field. -/
def Accessor.declaredTy? (direction : Direction) : Accessor → Option Ty
  | method m | ambiguous m _ =>
    match direction with
    | .get => some m.returnType
    | .set => m.params.head?
  | readField f | writeField f => some f.type

/-- What the metadata of a class answers about the properties of one direction fits together, where
`names` are the names it lists. -/
structure Metadata.InStep (r : Registry) (id : ClassId) (m : Metadata) (direction : Direction)
    (names : List String) : Prop where
  /-- The names are strictly ascending. -/
  ascending : names.Pairwise (· < ·)
  /-- The names are those with an accessor. -/
  mem_names_iff : ∀ name, name ∈ names ↔ ∃ a, m.accessor direction name = .ok a
  /-- There is a class exactly where there is an accessor. -/
  valueType_iff : ∀ name, (∃ type, m.valueType direction name = .ok type) ↔
    ∃ a, m.accessor direction name = .ok a
  /-- An accessor goes in its direction. -/
  direction_eq : ∀ name a, m.accessor direction name = .ok a → a.direction = direction
  /-- The class is that of the declared type of the member behind the accessor, resolved. -/
  valueType_eq : ∀ name a, m.accessor direction name = .ok a → ∃ ty resolved,
    a.declaredTy? direction = some ty ∧
      r.hierarchy.resolve ty (.ofClass id) a.declaring = .ok resolved ∧
        m.valueType direction name = .ok resolved.collapse

namespace Property.ComesFrom

variable {o : Origin} {direction : Direction} {name : String} {p : Property}

/-- The accessor of a property goes in the direction in which the property is provided. -/
theorem direction_eq (hp : Property.ComesFrom o direction name p) :
    p.accessor.direction = direction := by
  cases hp with
  | @method m a type hm hprovides ha htype =>
    have hdirection := hprovides.direction_eq
    cases a <;> cases ha <;> exact hdirection
  | field hf hprovides htype => cases direction <;> rfl

/-- The class of a property is that of the declared type of its member, resolved. -/
theorem exists_declaredTy? (hp : Property.ComesFrom o direction name p) :
    ∃ ty resolved, p.accessor.declaredTy? direction = some ty ∧
      o.hierarchy.resolve ty (.ofClass o.classId) p.accessor.declaring = .ok resolved ∧
        p.type = resolved.collapse := by
  cases hp with
  | @method m a type hm hprovides ha htype =>
    obtain ⟨resolved, hresolved, htype⟩ := Hierarchy.resolvedClass_eq_ok_iff.1 htype
    have hdeclared : a.declaredTy? direction = some (m.valueTy direction) := by
      have hmethod : a.declaredTy? direction = (Accessor.method m).declaredTy? direction := by
        cases a <;> cases ha <;> rfl
      rw [hmethod]
      cases direction with
      | get => rfl
      | set =>
        -- a method that writes has a first parameter
        obtain ⟨first, rest, hparams⟩ : ∃ first rest, m.params = first :: rest := by
          refine List.exists_cons_of_ne_nil fun hnil => ?_
          have hdirection := hprovides.direction_eq
          simp [Method.direction, hnil] at hdirection
        simp [Accessor.declaredTy?, Method.valueTy, hparams]
    have hdeclaring : a.declaring = m.declaring := by cases a <;> cases ha <;> rfl
    exact ⟨m.valueTy direction, resolved, hdeclared, hdeclaring ▸ hresolved, htype.symm⟩
  | @field f type hf hprovides htype =>
    obtain ⟨resolved, hresolved, htype⟩ := Hierarchy.resolvedClass_eq_ok_iff.1 htype
    refine ⟨f.type, resolved, ?_, ?_, htype.symm⟩
    · cases direction <;> rfl
    · cases direction <;> exact hresolved

end Property.ComesFrom

namespace Metadata

variable {r : Registry} {id : ClassId} {c : ClassInfo} {m : Metadata}

theorem accessor_eq_ok_iff {direction : Direction} {name : String} {a : Accessor} :
    m.accessor direction name = .ok a ↔ (m.towards direction).accessors.find? name = some a := by
  unfold accessor
  cases (m.towards direction).accessors.find? name <;> simp

theorem valueType_eq_ok_iff {direction : Direction} {name : String} {type : ClassRef} :
    m.valueType direction name = .ok type ↔
      (m.towards direction).types.find? name = some type := by
  unfold valueType
  cases (m.towards direction).types.find? name <;> simp

/-- A direction in which the metadata shows an origin is in step. -/
theorem inStep_of_shows {o : Origin} {direction : Direction}
    (hshows : (m.towards direction).Shows o direction) (hhierarchy : o.hierarchy = r.hierarchy)
    (hid : o.classId = id) : m.InStep r id direction (m.towards direction).names := by
  have hholds := hshows.holds
  refine ⟨(m.towards direction).accessors.ascending, fun name => ?mem_names,
    fun name => ?valueType_iff, fun name a ha => ?direction, fun name a ha => ?valueType⟩
  case mem_names =>
    simp only [accessor_eq_ok_iff]
    exact (NameMap.mem_names_iff _ name).trans Option.isSome_iff_exists
  case valueType_iff =>
    simp only [accessor_eq_ok_iff, valueType_eq_ok_iff]
    rw [← Option.isSome_iff_exists, ← Option.isSome_iff_exists, hholds.isSome_find?_types]
  case direction =>
    obtain ⟨type, -, hp⟩ := hholds.exists_type (accessor_eq_ok_iff.1 ha)
    exact hp.direction_eq
  case valueType =>
    obtain ⟨type, htype, hp⟩ := hholds.exists_type (accessor_eq_ok_iff.1 ha)
    obtain ⟨ty, resolved, hty, hresolved, rfl⟩ := hp.exists_declaredTy?
    rw [hhierarchy, hid] at hresolved
    exact ⟨ty, resolved, hty, hresolved, valueType_eq_ok_iff.2 htype⟩

/-- The metadata of every registered class is in step in both directions. -/
theorem exists_ofClass_inStep (h : r.Reachable) (hc : r.class? id = some c) :
    ∃ m, ofClass r id = .ok m ∧ m.InStep r id .get m.readable ∧ m.InStep r id .set m.writable := by
  obtain ⟨m, hm⟩ := exists_ofClass_eq_ok h.wellFormed hc
  obtain ⟨c, methods, fields, -, -, -, ⟨hget, hset⟩, -⟩ := exists_origin hm
  have hread : m.InStep r id .get (m.towards .get).names := inStep_of_shows hget rfl rfl
  have hwritten : m.InStep r id .set (m.towards .set).names := inStep_of_shows hset rfl rfl
  exact ⟨m, hm, hread, hwritten⟩

/-- A public method that takes one value. -/
def setterDraft (name : String) (param : ClassId) : MethodDraft :=
  { MethodDraft.named name with params := [.ofClass param] }

/-- The draft of a class with a number that can be set in three ways, the last of which takes just
what the getter returns, and with a label that can be set in two ways. -/
def counterDraft : ClassDraft :=
  (((((ClassDraft.ofKind ⟨7⟩ "Counter" .ordinary).withMethod
    { MethodDraft.named "getCount" with returnType := .ofClass ⟨2⟩ }).withMethod
      (setterDraft "setCount" ⟨1⟩)).withMethod (setterDraft "setCount" ⟨3⟩)).withMethod
        (setterDraft "setCount" ⟨2⟩)).withMethod (setterDraft "setLabel" ⟨1⟩) |>.withMethod
          (setterDraft "setLabel" ⟨3⟩)

/-- The calls that register the counter. -/
def counterCalls : List RegistryCall :=
  [.reserve "Counter" .ordinary, .register counterDraft]

/-- The setter of the count has taken the place of an ambiguous one, and the setter of the label has
remained ambiguous; the metadata of the counter is in step all the same. -/
theorem counterCalls_inStep :
    ∃ m, ofClass (counterCalls.foldl Registry.after .initial) ⟨7⟩ = .ok m ∧
      m.writable = ["count", "label"] ∧
      (m.valueType .set "count").toOption = some (.declared ⟨2⟩) ∧
      (m.accessor .set "label").toOption.map (·.isAmbiguous) = some true ∧
      m.InStep (counterCalls.foldl Registry.after .initial) ⟨7⟩ .get m.readable ∧
      m.InStep (counterCalls.foldl Registry.after .initial) ⟨7⟩ .set m.writable := by
  have hreachable : (counterCalls.foldl Registry.after .initial).Reachable :=
    Registry.Reachable.initial.foldl (by decide)
  have hclass : ((counterCalls.foldl Registry.after .initial).class? ⟨7⟩).isSome = true := by
    decide +kernel
  obtain ⟨c, hc⟩ := Option.isSome_iff_exists.1 hclass
  obtain ⟨m, hm, hread, hwritten⟩ := exists_ofClass_inStep hreachable hc
  have hshown : (ofClass (counterCalls.foldl Registry.after .initial) ⟨7⟩).toOption.map
      (fun m => (m.writable, (m.valueType .set "count").toOption,
        (m.accessor .set "label").toOption.map (·.isAmbiguous))) =
      some (["count", "label"], some (.declared ⟨2⟩), some true) := by decide +kernel
  rw [hm] at hshown
  obtain ⟨hnames, hcount, hlabel⟩ : m.writable = ["count", "label"] ∧
      (m.valueType .set "count").toOption = some (.declared ⟨2⟩) ∧
        (m.accessor .set "label").toOption.map (·.isAmbiguous) = some true := by
    simpa [Except.toOption] using hshown
  exact ⟨m, hm, hnames, hcount, hlabel, hread, hwritten⟩

end Metadata

end Introspection
