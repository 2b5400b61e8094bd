import Introspection.Proofs.Accessor.Denial
import Introspection.Proofs.Metadata.Fields
import Introspection.Proofs.Registry.Layouts

/-!
# Fields of objects

What the accessors of an instance field do to the objects that have the field.  The objects of a
class have all fields that the classes of its superclass chain declare
(`Registry.Reachable.key_mem_keys`), so an accessor in the metadata of a class serves the objects of
all its subclasses as well, whatever fields of the same name these declare.

With the flags that are needed, writing succeeds and changes the value under the key of this one
field, and reading returns this value (`Accessor.exists_invoke_writeField`,
`Accessor.exists_invoke_readField`).  What fails changes no value
(`Field.values_of_invoke_eq_error`).  The main statement is `exists_ofClass_fieldAccess`.
-/

namespace Introspection

variable {f : Field} {s s' : State} {ref : ObjectRef} {o : Instance} {target value : Value}
  {args : List Value}

/-! ### Plain uses -/

namespace Field

/-- A field that an object has is read, unless access is missing. -/
theorem reading_eq_ok (hinstance : f.modifiers.isStatic = false)
    (hvalue : s.heap.read? ref (.key f.key) = some value)
    (hgranted : (f.reading (.object ref) s).1 ≠ .error .illegalAccess) :
    f.reading (.object ref) s = (.ok value, s) := by
  cases hpermits : s.permits f.toMember with
  | false =>
    have hrefused := (f.isUse_reading (.object ref)).eq_of_permits_eq_false hpermits
    exact absurd (congrArg Prod.fst hrefused) hgranted
  | true => simp [reading, read, hpermits, hinstance, hvalue]

/-- A field that an object has is written, unless access is missing, and nothing else is. -/
theorem exists_writing_eq_ok (hinstance : f.modifiers.isStatic = false)
    (ho : s.heap.find? ref = some o) (hkey : f.key ∈ o.layout.keys)
    (hgranted : (f.writing (.object ref) value s).1 ≠ .error .illegalAccess) :
    ∃ heap, f.writing (.object ref) value s = (.ok .null, { s with heap := heap }) ∧
      s.heap.Puts heap ref f.key value := by
  obtain ⟨heap, hwritten, hputs⟩ := Heap.exists_puts ho hkey value
  refine ⟨heap, ?_, hputs⟩
  cases hpermits : s.permits f.toMember with
  | false =>
    have hrefused := (f.isUse_writing (.object ref) value).eq_of_permits_eq_false hpermits
    exact absurd (congrArg Prod.fst hrefused) hgranted
  | true =>
    have hfinality : f.finality s = none := by
      cases hfinal : f.modifiers.isFinal with
      | false => simp [finality, hfinal]
      | true =>
        cases hset : s.isAccessible f.id with
        | true => simp [finality, hfinal, hinstance, hset]
        | false =>
          have hrefused := f.writing_eq_of_isFinal (.object ref) value hfinal hinstance hset
          exact absurd (congrArg Prod.fst hrefused) hgranted
    have hw : f.write s (.object ref) value = .ok { s with heap := heap } :=
      write_eq_ok_iff.2 ⟨hpermits, hfinality, .inr ⟨hinstance, ref, heap, rfl, hwritten, rfl⟩⟩
    rw [writing, hw]

/-- Writing that fails changes nothing. -/
theorem snd_writing_of_error {e : CallError} (herror : (f.writing target value s).1 = .error e) :
    (f.writing target value s).2 = s := by
  obtain ⟨s', -, heq⟩ | ⟨e', heq⟩ := f.writing_cases target value s
  · rw [heq] at herror
    cases herror
  · rw [heq]

end Field

/-! ### Accessors -/

namespace Accessor

/-- With the flag for reading, reading a field that an object has returns its value and changes
none. -/
theorem exists_invoke_readField (hinstance : f.modifiers.isStatic = false)
    (hcontrol : s.permissions.canControl f.declaring .read = true)
    (hvalue : s.heap.read? ref (.key f.key) = some value) :
    ∃ s', (readField f).invoke s (.object ref) [] = (.ok value, s') ∧ s'.heap = s.heap ∧
      s'.statics = s.statics := by
  have huse := f.isUse_reading (.object ref)
  have hpolicy := huse.overridePolicy (f.refused_reading_iff (.object ref)) s .read
  obtain ⟨s₀, hstart, hgranted, hinvoke⟩ := hpolicy.exists_reported_eq hcontrol
  obtain ⟨hheap, hstatics⟩ := State.values_of_start hstart
  rw [← hheap] at hvalue
  rw [Field.reading_eq_ok hinstance hvalue hgranted] at hinvoke
  exact ⟨s₀, hinvoke, hheap, hstatics⟩

/-- With the flag for writing, writing a field that an object has succeeds and changes this one
value, which is read then. -/
theorem exists_invoke_writeField (hinstance : f.modifiers.isStatic = false)
    (hcontrol : s.permissions.canControl f.declaring .write = true)
    (ho : s.heap.find? ref = some o) (hkey : f.key ∈ o.layout.keys) (value : Value) :
    ∃ s', (writeField f).invoke s (.object ref) [value] = (.ok .null, s') ∧
      s.heap.Puts s'.heap ref f.key value ∧ s'.statics = s.statics ∧
        (readField f).invoke s' (.object ref) [] = (.ok value, s') := by
  have huse := f.isUse_writing (.object ref) value
  have hpolicy := huse.overridePolicy (f.refused_writing_iff (.object ref) value) s .write
  obtain ⟨s₀, hstart, hgranted, hinvoke⟩ := hpolicy.exists_reported_eq hcontrol
  obtain ⟨hheap, hstatics⟩ := State.values_of_start hstart
  rw [← hheap] at ho
  obtain ⟨heap, hwritten, hputs⟩ := Field.exists_writing_eq_ok hinstance ho hkey hgranted
  rw [hwritten] at hinvoke
  exact ⟨_, hinvoke, hheap ▸ hputs, hstatics, invoke_readField_of_writeField hinvoke⟩

end Accessor

/-- Where a use changes nothing when it fails, no value changes when it fails behind an accessor. -/
theorem Member.IsUse.values_of_withOverride_eq_error {α : Type} {m : Member} {kind : AccessKind}
    {use : State → Except CallError α × State} {e : ReflectionError} (huse : m.IsUse use)
    (hfails : ∀ {s e}, (use s).1 = .error e → (use s).2 = s)
    (herror : s.withOverride m kind use = (.error e, s')) :
    s'.heap = s.heap ∧ s'.statics = s.statics := by
  obtain ⟨s₀, hstart, heq⟩ := huse.exists_withOverride_eq s kind
  rcases houtcome : use s₀ with ⟨fault | a, s₁⟩
  · obtain rfl : s₁ = s₀ := by
      have hsame := hfails (congrArg Prod.fst houtcome)
      rwa [houtcome] at hsame
    rw [herror, houtcome] at heq
    cases heq
    exact State.values_of_start hstart
  · rw [herror, houtcome] at heq
    cases heq

/-- An accessor of a field that fails changes no value. -/
theorem Field.values_of_invoke_eq_error {direction : Direction} {e : ReflectionError}
    (herror : (f.accessor direction).invoke s target args = (.error e, s')) :
    s'.heap = s.heap ∧ s'.statics = s.statics := by
  cases direction with
  | get =>
    match args with
    | [] => exact (f.isUse_reading target).values_of_withOverride_eq_error (fun _ => rfl) herror
    | _ :: _ =>
      cases herror
      exact ⟨rfl, rfl⟩
  | set =>
    match args with
    | [value] =>
      exact (f.isUse_writing target value).values_of_withOverride_eq_error snd_writing_of_error
        herror
    | [] | _ :: _ :: _ =>
      cases herror
      exact ⟨rfl, rfl⟩

/-! ### Inherited fields -/

variable {r : Registry} {id owner : ClassId} {c : ClassInfo}

/-- The objects of a class have the instance fields that the classes of its superclass chain
declare. -/
theorem Registry.Reachable.key_mem_keys (h : r.Reachable) (hc : r.class? id = some c)
    (howner : r.hierarchy.Reaches .superclass id owner) (hdeclares : r.DeclaresField owner f)
    (hinstance : f.modifiers.isStatic = false) : f.key ∈ c.layout.keys := by
  obtain ⟨c', hc', hf⟩ := hdeclares
  refine h.mem_keys_of_reaches hc howner ?_
  rw [ownKeys_of_class? hc']
  exact List.mem_map_of_mem (ClassInfo.mem_instanceFields_iff.2 ⟨hf, hinstance⟩)

/-- A class has its own instance fields and those of its superclass.  In its metadata, an accessor
that reads or writes an instance field serves every object of the class and of its subclasses: with
the flags, reading returns the value of this field, and writing changes this value alone and is
read back.  Accessors of fields that fail change no value. -/
theorem exists_ofClass_fieldAccess (h : r.Reachable) (hc : r.class? id = some c) :
    c.layout.keys = c.instanceFields.map Field.key ++
      ((r.superclassInfo? c).map (·.layout.keys)).getD [] ∧
    ∃ m, Metadata.ofClass r id = .ok m ∧ ∀ direction name f,
      m.accessor direction name = .ok (f.accessor direction) →
      (f.modifiers.isStatic = false → ∀ sub c', r.class? sub = some c' →
        r.hierarchy.Reaches .superclass sub id → ∀ s ref o, s.heap.find? ref = some o →
          o.layout = c'.layout →
          (s.permissions.canControl f.declaring .read = true → ∃ value s',
            s.heap.read? ref (.key f.key) = some value ∧
            (Accessor.readField f).invoke s (.object ref) [] = (.ok value, s') ∧
            s'.heap = s.heap ∧ s'.statics = s.statics) ∧
          (s.permissions.canControl f.declaring .write = true → ∀ value, ∃ s',
            (Accessor.writeField f).invoke s (.object ref) [value] = (.ok .null, s') ∧
            s.heap.Puts s'.heap ref f.key value ∧ s'.statics = s.statics ∧
            (Accessor.readField f).invoke s' (.object ref) [] = (.ok value, s'))) ∧
      ∀ way s target args e s', (f.accessor way).invoke s target args = (.error e, s') →
        s'.heap = s.heap ∧ s'.statics = s.statics := by
  obtain ⟨m, hm⟩ := Metadata.exists_ofClass_eq_ok h.wellFormed hc
  refine ⟨h.keys_eq hc, m, hm, fun direction name f ha => ⟨?served, ?failed⟩⟩
  case served =>
    intro hinstance sub c' hc' hsub s ref o ho hlayout
    obtain ⟨fields, hfields, hfound⟩ := Metadata.exists_find?_of_accessor hc hm ha
    obtain ⟨owner, howner, hdeclares⟩ :=
      (Registry.mem_chainFields_iff hfields).1 (List.mem_of_find?_eq_some hfound)
    have hkey : f.key ∈ o.layout.keys :=
      hlayout ▸ h.key_mem_keys hc' (hsub.trans howner) hdeclares hinstance
    constructor
    · intro hcontrol
      obtain ⟨value, hvalue⟩ := Heap.exists_read?_eq ho hkey
      obtain ⟨s', hinvoke, hsame⟩ := Accessor.exists_invoke_readField hinstance hcontrol hvalue
      exact ⟨value, s', hvalue, hinvoke, hsame⟩
    · exact fun hcontrol => Accessor.exists_invoke_writeField hinstance hcontrol ho hkey
  case failed => exact fun way s target args e s' => Field.values_of_invoke_eq_error

/-- The drafts of a class with a private field, and of one that extends it and declares a field of
the same name. -/
def accountDrafts : List ClassDraft :=
  [(ClassDraft.ofKind ⟨7⟩ "Account" .ordinary).withField
      { FieldDraft.named "balance" (.ofClass ⟨3⟩) with
        modifiers := .privateFlag, initial := .int 0 },
    ((ClassDraft.ofKind ⟨8⟩ "Savings" .ordinary).withSuperclass (.ofClass ⟨7⟩)).withField
      { FieldDraft.named "balance" (.ofClass ⟨3⟩) with initial := .int 100 }]

theorem accountDrafts_reachable :
    ((Registry.definitionCalls accountDrafts).foldl Registry.after .initial).Reachable :=
  Registry.reachable_definitionCalls (by decide)

/-- On an object of the second class, the accessor of the first class writes the private field and
leaves the field of the same name alone. -/
theorem accountDrafts_fieldAccess :
    let r := (Registry.definitionCalls accountDrafts).foldl Registry.after .initial
    ∃ c m f, r.class? ⟨8⟩ = some c ∧ Metadata.ofClass r ⟨7⟩ = .ok m ∧
      m.accessor .set "balance" = .ok (.writeField f) ∧
      let object := Heap.empty.allocate c.layout
      let s : State := { State.initial with heap := object.2 }
      ∃ s', (Accessor.writeField f).invoke s (.object object.1) [.int 5] = (.ok .null, s') ∧
        (Accessor.readField f).invoke s' (.object object.1) [] = (.ok (.int 5), s') ∧
        s'.heap.read? object.1 (.key ⟨⟨8⟩, "balance"⟩) = some (.int 100) := by
  intro r
  obtain ⟨account, haccount⟩ : ∃ c, r.class? ⟨7⟩ = some c :=
    Option.isSome_iff_exists.1 (by decide +kernel)
  obtain ⟨-, m, hm, hserved⟩ := exists_ofClass_fieldAccess accountDrafts_reachable haccount
  have hshown : ((r.class? ⟨8⟩).any fun c =>
      let object := Heap.empty.allocate c.layout
      decide (object.2.read? object.1 (.key ⟨⟨8⟩, "balance"⟩) = some (.int 100)) &&
        (Metadata.ofClass r ⟨7⟩).toOption.any fun m => (m.writtenField? "balance").any fun f =>
          decide (f.modifiers.isStatic = false ∧ f.key = ⟨⟨7⟩, "balance"⟩)) = true := by
    decide +kernel
  obtain ⟨c, hc, hshown⟩ := (Option.any_eq_true _ _).1 hshown
  obtain ⟨hown, hshown⟩ := Bool.and_eq_true_iff.1 hshown
  obtain ⟨m', hm', hshown⟩ := (Option.any_eq_true _ _).1 hshown
  cases hm.symm.trans (Except.toOption_eq_some_iff.1 hm')
  obtain ⟨f, hf, hshown⟩ := (Option.any_eq_true _ _).1 hshown
  obtain ⟨hinstance, hkey⟩ := of_decide_eq_true hshown
  have ha := Metadata.accessor_of_writtenField? hf
  refine ⟨c, m, f, hc, hm, ha, ?_⟩
  intro object s
  have hsub : r.hierarchy.Reaches .superclass ⟨8⟩ ⟨7⟩ :=
    Registry.mem_superclassChain_iff.1 (by decide +kernel)
  have ho : s.heap.find? object.1 = some (Instance.ofLayout c.layout) :=
    Heap.find?_allocate_self .empty c.layout
  obtain ⟨-, hwrite⟩ := (hserved .set "balance" f ha).1 hinstance ⟨8⟩ c hc hsub s object.1 _ ho rfl
  obtain ⟨s', hwritten, hputs, -, hread⟩ := hwrite (State.canControl_initial _ _) (.int 5)
  refine ⟨s', hwritten, hread, ?_⟩
  rw [hputs.read?_of_ne _ (by rw [hkey]; decide)]
  exact of_decide_eq_true hown

end Introspection
