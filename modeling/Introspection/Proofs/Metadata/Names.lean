import Introspection.Proofs.Metadata.Origin

/-!
# Names of properties

Which properties a class has can be read off its declarations: the names are those that its
collected methods and the fields of its superclass chain give, none is lost and none is invented
(`Metadata.exists_ofClass_names`).

On the way from the declarations to the names methods of a signature seen before are dropped, some
candidates lose against others, some end in an ambiguity, and fields are hidden by methods and by
other fields.  Each of these steps replaces a member by another one of the same property.
-/

namespace Introspection

/-- The name may be that of a property: it does not begin with a dollar sign and is none of the two
reserved ones. -/
def PropertyName.Allowed (name : String) : Prop :=
  name.toList.head? ≠ some '$' ∧ name ≠ "serialVersionUID" ∧ name ≠ "class"

theorem PropertyName.isAllowed_iff {name : String} : isAllowed name = true ↔ Allowed name := by
  simp [isAllowed, Allowed, and_assoc]

/-! ### Methods of one signature -/

/-- Methods of one signature provide the same properties. -/
theorem Method.Provides.of_signature_eq {inRecord : Bool} {direction : Direction} {name : String}
    {m m' : Method} (hm : m.Provides inRecord direction name)
    (hsignature : m'.signature = m.signature) : m'.Provides inRecord direction name := by
  have hslot : m'.slot = m.slot := congrArg Signature.slot hsignature
  have hname : m'.name = m.name := congrArg MethodSlot.name hslot
  have hlength : m'.params.length = m.params.length := by
    have hclasses : m'.paramClasses = m.paramClasses := congrArg MethodSlot.params hslot
    simpa [Method.paramClasses] using congrArg List.length hclasses
  have hnil : m'.params = [] ↔ m.params = [] := by
    rw [← List.length_eq_zero_iff, hlength, List.length_eq_zero_iff]
  unfold Provides at hm ⊢
  split
  · next hrecord =>
    rw [if_pos hrecord] at hm
    rwa [hname, hnil]
  · next hrecord =>
    rw [if_neg hrecord] at hm
    cases direction with
    | get => rwa [accesses_get_iff, hname, hnil, ← accesses_get_iff]
    | set => rwa [accesses_set_iff, hname, hlength, ← accesses_set_iff]

namespace Registry

variable {r : Registry} {id : ClassId} {c : ClassInfo} {name : String}

/-! ### What the declarations give -/

/-- A collected method without parameters has the name of a getter of the property. -/
def HasGetter (r : Registry) (id : ClassId) (name : String) : Prop :=
  ∃ m, r.Collects id m ∧ m.params = [] ∧ PropertyName.isGetter m.name = true ∧
    PropertyName.ofAccessor? m.name = some name

/-- A collected method with one parameter has the name of a setter of the property. -/
def HasSetter (r : Registry) (id : ClassId) (name : String) : Prop :=
  ∃ m, r.Collects id m ∧ m.params.length = 1 ∧ PropertyName.isSetter m.name = true ∧
    PropertyName.ofAccessor? m.name = some name

/-- A collected method without parameters has this name. -/
def HasComponent (r : Registry) (id : ClassId) (name : String) : Prop :=
  ∃ m, r.Collects id m ∧ m.params = [] ∧ m.name = name

/-- A class of the superclass chain declares a field of this name. -/
def HasField (r : Registry) (id : ClassId) (name : String) : Prop :=
  ∃ owner f, r.hierarchy.Reaches .superclass id owner ∧ r.DeclaresField owner f ∧ f.name = name

/-- A class of the superclass chain declares a field of this name that is not both static and
final. -/
def HasVariable (r : Registry) (id : ClassId) (name : String) : Prop :=
  ∃ owner f, r.hierarchy.Reaches .superclass id owner ∧ r.DeclaresField owner f ∧ f.name = name ∧
    ¬ (f.modifiers.isStatic = true ∧ f.modifiers.isFinal = true)

/-- What the methods in the list provide is what the collected methods provide. -/
theorem Reachable.exists_provides_iff (h : r.Reachable) (hc : r.class? id = some c)
    {methods : List Method} (hok : r.collectedMethods id = .ok methods) {inRecord : Bool}
    {direction : Direction} : (∃ m ∈ methods, m.Provides inRecord direction name) ↔
      ∃ m, r.Collects id m ∧ m.Provides inRecord direction name := by
  obtain ⟨hsound, hcomplete⟩ := h.mem_collectedMethods hc hok
  constructor
  · rintro ⟨m, hm, hprovides⟩
    exact ⟨m, hsound m hm, hprovides⟩
  · rintro ⟨m, hm, hprovides⟩
    obtain ⟨m', hm', hsignature⟩ := hcomplete m hm
    exact ⟨m', hm', hprovides.of_signature_eq hsignature⟩

theorem exists_provides_get_iff : (∃ m, r.Collects id m ∧ m.Provides false .get name) ↔
    PropertyName.Allowed name ∧ r.HasGetter id name := by
  simp only [Method.Provides, Bool.false_eq_true, if_false, Method.accesses_get_iff, HasGetter,
    PropertyName.isAllowed_iff]
  constructor
  · rintro ⟨m, hm, hparams, hgetter, hname, hallowed⟩
    exact ⟨hallowed, m, hm, hparams, hgetter, hname⟩
  · rintro ⟨hallowed, m, hm, hparams, hgetter, hname⟩
    exact ⟨m, hm, hparams, hgetter, hname, hallowed⟩

theorem exists_provides_set_iff : (∃ m, r.Collects id m ∧ m.Provides false .set name) ↔
    PropertyName.Allowed name ∧ r.HasSetter id name := by
  simp only [Method.Provides, Bool.false_eq_true, if_false, Method.accesses_set_iff, HasSetter,
    PropertyName.isAllowed_iff]
  constructor
  · rintro ⟨m, hm, hparams, hsetter, hname, hallowed⟩
    exact ⟨hallowed, m, hm, hparams, hsetter, hname⟩
  · rintro ⟨hallowed, m, hm, hparams, hsetter, hname⟩
    exact ⟨m, hm, hparams, hsetter, hname, hallowed⟩

variable {fields : List Field}

theorem exists_field_provides_get_iff (hok : r.chainFields id = .ok fields) :
    (∃ f ∈ fields, f.Provides .get name) ↔ PropertyName.Allowed name ∧ r.HasField id name := by
  simp only [mem_chainFields_iff hok, Field.Provides, HasField, PropertyName.isAllowed_iff]
  constructor
  · rintro ⟨f, ⟨owner, hreach, hf⟩, hname, hallowed, -⟩
    exact ⟨hallowed, owner, f, hreach, hf, hname⟩
  · rintro ⟨hallowed, owner, f, hreach, hf, hname⟩
    exact ⟨f, ⟨owner, hreach, hf⟩, hname, hallowed, nofun⟩

theorem exists_field_provides_set_iff (hok : r.chainFields id = .ok fields) :
    (∃ f ∈ fields, f.Provides .set name) ↔ PropertyName.Allowed name ∧ r.HasVariable id name := by
  simp only [mem_chainFields_iff hok, Field.Provides, HasVariable, PropertyName.isAllowed_iff]
  have hconstant : ∀ f : Field, (f.modifiers.isFinal && f.modifiers.isStatic) = false ↔
      ¬ (f.modifiers.isStatic = true ∧ f.modifiers.isFinal = true) := by
    intro f
    cases f.modifiers.isFinal <;> cases f.modifiers.isStatic <;> simp
  constructor
  · rintro ⟨f, ⟨owner, hreach, hf⟩, hname, hallowed, hwritable⟩
    exact ⟨hallowed, owner, f, hreach, hf, hname, (hconstant f).1 (hwritable trivial)⟩
  · rintro ⟨hallowed, owner, f, hreach, hf, hname, hwritable⟩
    exact ⟨f, ⟨owner, hreach, hf⟩, hname, hallowed, fun _ => (hconstant f).2 hwritable⟩

end Registry

/-! ### The names of a class -/

namespace Metadata

variable {r : Registry} {id : ClassId} {c : ClassInfo}

/-- A name of a registered class that is no record can be read exactly if it is allowed and there is
a getter or a field of it, and can be written exactly if it is allowed and there is a setter of it
or a field that is not both static and final.  Of a record the names of the collected methods
without parameters can be read, and nothing can be written. -/
theorem exists_ofClass_names (h : r.Reachable) (hc : r.class? id = some c) :
    ∃ m, ofClass r id = .ok m ∧
      (c.isRecord = false → ∀ name,
        (name ∈ m.readable ↔
          PropertyName.Allowed name ∧ (r.HasGetter id name ∨ r.HasField id name)) ∧
        (name ∈ m.writable ↔
          PropertyName.Allowed name ∧ (r.HasSetter id name ∨ r.HasVariable id name))) ∧
      (c.isRecord = true → (∀ name, name ∈ m.readable ↔ r.HasComponent id name) ∧
        m.writable = []) := by
  obtain ⟨m, hm⟩ := exists_ofClass_eq_ok h.wellFormed hc
  obtain ⟨c', methods, fields, hc', hmethods, hfields, ⟨hget, hset⟩, -⟩ := exists_origin hm
  cases hc.symm.trans hc'
  refine ⟨m, hm, fun hrecord name => ?ordinary, fun hrecord => ?record⟩
  case ordinary =>
    rw [hrecord] at hget hset
    rw [hrecord, if_neg Bool.false_ne_true] at hfields
    constructor
    · refine hget.mem_names_iff.trans ?_
      rw [Origin.Provides, h.exists_provides_iff hc hmethods, Registry.exists_provides_get_iff,
        Registry.exists_field_provides_get_iff hfields, ← and_or_left]
    · refine hset.mem_names_iff.trans ?_
      rw [Origin.Provides, h.exists_provides_iff hc hmethods, Registry.exists_provides_set_iff,
        Registry.exists_field_provides_set_iff hfields, ← and_or_left]
  case record =>
    rw [hrecord] at hget hset
    rw [hrecord, if_pos rfl] at hfields
    subst hfields
    constructor
    · intro name
      refine hget.mem_names_iff.trans ?_
      rw [Origin.Provides, h.exists_provides_iff hc hmethods]
      simp [Method.Provides, Registry.HasComponent]
    · refine List.eq_nil_iff_forall_not_mem.2 fun name hname => ?_
      rcases hset.mem_names_iff.1 hname with ⟨k, -, hdirection, -⟩ | ⟨f, hf, -⟩
      · cases hdirection
      · cases hf

/-- The draft of an interface with a getter. -/
def namedDraft : ClassDraft :=
  (ClassDraft.ofKind ⟨7⟩ "Named" .interface).withMethod
    { MethodDraft.named "getName" with returnType := .ofClass ⟨1⟩ }

/-- The draft of a class that has the getter from its interface, and a field, a constant and a field
that a compiler would have generated. -/
def personDraft : ClassDraft :=
  ((((ClassDraft.ofKind ⟨8⟩ "Person" .ordinary).withInterface (.ofClass ⟨7⟩)).withField
    (.named "age" (.ofClass ⟨3⟩))).withField
      { FieldDraft.named "LIMIT" (.ofClass ⟨3⟩) with
        modifiers := Modifiers.staticFlag.union .finalFlag }).withField
          (.named "$cache" (.ofClass ⟨1⟩))

/-- The draft of a record with one component and the getter from its interface. -/
def pointDraft : ClassDraft :=
  ((ClassDraft.ofKind ⟨9⟩ "Point" .record).withInterface (.ofClass ⟨7⟩)).withMethod
    { MethodDraft.named "x" with returnType := .ofClass ⟨3⟩ }

/-- The calls that register the interface, the class and the record. -/
def personCalls : List RegistryCall :=
  [.reserve "Named" .interface, .reserve "Person" .ordinary, .reserve "Point" .record,
    .register namedDraft, .register personDraft, .register pointDraft]

/-- The names of the class are those of its getter and of its fields that are allowed; the record
has the names of its methods themselves. -/
theorem personCalls_names :
    let r := personCalls.foldl Registry.after .initial
    (∃ m, ofClass r ⟨8⟩ = .ok m ∧ m.readable = ["LIMIT", "age", "name"] ∧ m.writable = ["age"] ∧
      ∀ name, name ∈ m.writable ↔
        PropertyName.Allowed name ∧ (r.HasSetter ⟨8⟩ name ∨ r.HasVariable ⟨8⟩ name)) ∧
    ∃ m, ofClass r ⟨9⟩ = .ok m ∧ m.readable = ["getName", "x"] ∧
      ∀ name, name ∈ m.readable ↔ r.HasComponent ⟨9⟩ name := by
  intro r
  have hreachable : r.Reachable := Registry.Reachable.initial.foldl (by decide)
  have hkinds : (r.class? ⟨8⟩).map (·.isRecord) = some false ∧
      (r.class? ⟨9⟩).map (·.isRecord) = some true := by decide +kernel
  have hnames : (ofClass r ⟨8⟩).toOption.map (fun m => (m.readable, m.writable)) =
      some (["LIMIT", "age", "name"], ["age"]) ∧
        (ofClass r ⟨9⟩).toOption.map (·.readable) = some ["getName", "x"] := by decide +kernel
  constructor
  · obtain ⟨c, hc, hkind⟩ := Option.map_eq_some_iff.1 hkinds.1
    obtain ⟨m, hm, hordinary, -⟩ := exists_ofClass_names hreachable hc
    have hshown := hnames.1
    rw [hm] at hshown
    obtain ⟨hread, hwritten⟩ : m.readable = ["LIMIT", "age", "name"] ∧ m.writable = ["age"] := by
      simpa [Except.toOption] using hshown
    exact ⟨m, hm, hread, hwritten, fun name => (hordinary hkind name).2⟩
  · obtain ⟨c, hc, hkind⟩ := Option.map_eq_some_iff.1 hkinds.2
    obtain ⟨m, hm, -, hrecord⟩ := exists_ofClass_names hreachable hc
    have hshown := hnames.2
    rw [hm] at hshown
    exact ⟨m, hm, by simpa [Except.toOption] using hshown, (hrecord hkind).1⟩

end Metadata

end Introspection
