import Introspection.Proofs.Accessor.ReadBack
import Introspection.Proofs.Metadata.Getters
import Introspection.Proofs.Registry.Definition

/-!
# Properties through fields

Where no method covers a direction of a property, the first field of the superclass chain does that
provides it (`Metadata.exists_find?_of_accessor`).  Both directions are looked for on their own.
They meet in one field unless the first field of the name is a constant: this one is read, but what
is written, if anything, is a field behind it that it hides.

So a property that is read and written through fields reads what has been written to it, unless it
is read through a constant, in which nothing that is written shows
(`Metadata.exists_ofClass_readBack`).
-/

namespace Introspection

variable {h : Hierarchy} {source : ClassId} {direction : Direction} {name other : String}
  {f g : Field} {t : PropertyTable} {p p' : Properties} {fields : List Field}

/-! ### What fields provide -/

namespace Field

/-- The field is static and final. -/
def IsConstant (f : Field) : Prop :=
  f.modifiers.isStatic = true ∧ f.modifiers.isFinal = true

instance (direction : Direction) (name : String) : DecidablePred (Provides direction name) :=
  fun f => inferInstanceAs (Decidable (f.name = name ∧ _ ∧ (direction = .set → _)))

/-- A field is written where it is read, unless it is a constant. -/
theorem provides_set_iff : f.Provides .set name ↔ f.Provides .get name ∧ ¬ f.IsConstant := by
  have hwritable : (f.modifiers.isFinal && f.modifiers.isStatic) = false ↔ ¬ f.IsConstant := by
    rw [IsConstant, and_comm, ← Bool.and_eq_true, Bool.not_eq_true]
  simp [Provides, hwritable, and_assoc]

/-- A field is read and written through no method. -/
theorem method?_accessor (direction : Direction) (f : Field) :
    (f.accessor direction).method? = none := by
  cases direction <;> rfl

theorem accessor_inj : f.accessor direction = g.accessor direction ↔ f = g := by
  cases direction <;> simp [accessor]

end Field

/-- An accessor without a method is one of a field. -/
theorem Accessor.exists_field_of_isNone {a : Accessor} (hnone : a.method?.isNone = true) :
    ∃ f : Field, a = f.accessor a.direction := by
  cases a with
  | method m => cases hnone
  | readField f => exact ⟨f, rfl⟩
  | writeField f => exact ⟨f, rfl⟩
  | ambiguous m cause => cases hnone

/-! ### Tables with fields -/

/-- The table of a direction. -/
def Properties.table (p : Properties) : Direction → PropertyTable
  | .get => p.getters
  | .set => p.setters

/-- What is made of methods alone has no accessor of a field. -/
theorem PropertyTable.Shows.find?_ne_accessor {o : Origin} (ht : t.Shows o direction)
    (hfields : o.fields = []) : t.accessors.find? name ≠ some (f.accessor direction) := by
  intro hfound
  obtain ⟨type, -, hp⟩ := ht.holds.exists_type hfound
  generalize ha : f.accessor direction = a at hp
  cases hp with
  | method hm hprovides hmethod htype =>
    rw [← ha, f.method?_accessor] at hmethod
    cases hmethod
  | field hf hprovides htype =>
    rw [hfields] at hf
    cases hf

namespace Hierarchy

/-- What is added stands behind what was there. -/
theorem find?_accessors_addMissing {property : Property} :
    (addMissing t name property).accessors.find? other =
      (t.accessors.find? other).or (if other = name then some property.accessor else none) := by
  unfold addMissing
  split
  · next hcontains =>
    by_cases heq : other = name
    · obtain ⟨a, ha⟩ := Option.isSome_iff_exists.1 hcontains
      rw [heq, ha, Option.some_or]
    · rw [if_neg heq, Option.or_none]
  · next hmissing =>
    rw [PropertyTable.find?_accessors_record]
    by_cases heq : other = name
    · have hnone : t.accessors.find? name = none :=
        Option.not_isSome_iff_eq_none.1 hmissing
      rw [if_pos heq, if_pos heq, heq, hnone, Option.none_or]
    · rw [if_neg heq, if_neg heq, Option.or_none]

/-- A field is added behind what was there, under the name under which it provides something. -/
theorem find?_accessors_addField (hok : h.addField source p f = .ok p') :
    (p'.table direction).accessors.find? name = ((p.table direction).accessors.find? name).or
      (if f.Provides direction name then some (f.accessor direction) else none) := by
  unfold addField at hok
  split at hok
  · next hallowed =>
    obtain ⟨type, -, rfl⟩ := Except.map_eq_ok_iff.1 hok
    have hprovides : ∀ direction, f.Provides direction name ↔ name = f.name ∧
        (direction = .set → (f.modifiers.isFinal && f.modifiers.isStatic) = false) := by
      intro direction
      constructor
      · exact fun hprovides => ⟨hprovides.1.symm, hprovides.2.2⟩
      · rintro ⟨rfl, hwritable⟩
        exact ⟨rfl, hallowed, hwritable⟩
    cases direction with
    | get => simp [Properties.table, find?_accessors_addMissing, hprovides, Field.accessor]
    | set =>
      cases hconstant : f.modifiers.isFinal && f.modifiers.isStatic with
      | true => simp [Properties.table, hprovides, hconstant]
      | false =>
        simp [Properties.table, find?_accessors_addMissing, hprovides, hconstant, Field.accessor]
  · next hreserved =>
    cases hok
    have hnot : ¬ f.Provides direction name := by
      rintro ⟨rfl, hallowed, -⟩
      exact hreserved hallowed
    rw [if_neg hnot, Option.or_none]

/-- Of some fields that are added, the first one counts that provides what was not there. -/
theorem find?_accessors_foldlM_addField (hok : fields.foldlM (h.addField source) p = .ok p')
    (direction : Direction) (name : String) :
    (p'.table direction).accessors.find? name = ((p.table direction).accessors.find? name).or
      ((fields.find? (·.Provides direction name)).map (·.accessor direction)) := by
  induction fields generalizing p with
  | nil =>
    cases hok
    rw [List.find?_nil, Option.map_none, Option.or_none]
  | cons f fields ih =>
    rw [List.foldlM_cons] at hok
    obtain ⟨p₁, hfirst, hrest⟩ := Except.bind_eq_ok_iff.1 hok
    rw [ih hrest, find?_accessors_addField hfirst, Option.or_assoc]
    by_cases hf : f.Provides direction name
    · rw [if_pos hf, List.find?_cons_of_pos (by simpa using hf), Option.map_some, Option.some_or]
    · rw [if_neg hf, List.find?_cons_of_neg (by simpa using hf), Option.none_or]

end Hierarchy

/-! ### Metadata -/

namespace Metadata

variable {r : Registry} {id : ClassId} {c : ClassInfo} {m : Metadata}

/-- A field through which a property is read or written is the first one of the superclass chain
that provides this. -/
theorem exists_find?_of_accessor (hc : r.class? id = some c) (hm : ofClass r id = .ok m)
    (ha : m.accessor direction name = .ok (f.accessor direction)) :
    ∃ fields, r.chainFields id = .ok fields ∧
      fields.find? (·.Provides direction name) = some f := by
  have hfound := accessor_eq_ok_iff.1 ha
  cases hrecord : c.isRecord with
  | true =>
    obtain ⟨c', methods, fields, hc', -, hfields, ⟨hget, hset⟩, -⟩ := exists_origin hm
    cases hc.symm.trans hc'
    rw [hrecord, if_pos rfl] at hfields
    cases direction with
    | get => exact absurd hfound (hget.find?_ne_accessor hfields)
    | set => exact absurd hfound (hset.find?_ne_accessor hfields)
  | false =>
    obtain ⟨methods, -, hproperties⟩ := exists_ordinaryProperties_of_ofClass hc hrecord hm
    obtain ⟨getters, hgetters, hok⟩ := Except.bind_eq_ok_iff.1 hproperties
    obtain ⟨setters, hsetters, hok⟩ := Except.bind_eq_ok_iff.1 hok
    obtain ⟨fields, hfields, hok⟩ := Except.bind_eq_ok_iff.1 hok
    obtain ⟨getters', hgetters', hread⟩ := r.hierarchy.exists_gettersOf_eq_ok id methods
    cases hgetters.symm.trans hgetters'
    obtain ⟨setters', hsetters', hwritten⟩ :=
      r.hierarchy.exists_settersOf_eq_ok id getters methods
    cases hsetters.symm.trans hsetters'
    have htable : m.toProperties.table direction = m.towards direction := by
      cases direction <;> rfl
    have hmethods : ((Properties.mk getters setters).table direction).accessors.find? name ≠
        some (f.accessor direction) := by
      cases direction with
      | get => exact hread.find?_ne_accessor rfl
      | set => exact hwritten.find?_ne_accessor rfl
    have hadded := Hierarchy.find?_accessors_foldlM_addField hok direction name
    rw [htable, hfound] at hadded
    refine ⟨fields, hfields, ?_⟩
    rcases Option.or_eq_some_iff.1 hadded.symm with hmethod | ⟨-, hfield⟩
    · exact absurd hmethod hmethods
    · obtain ⟨f', hf', heq⟩ := Option.map_eq_some_iff.1 hfield
      rwa [← Field.accessor_inj.1 heq]

/-- A property that is read and written through fields is read and written through one field, unless
it is read through a constant; then it is written through another one. -/
theorem eq_or_isConstant_of_accessors (h : r.Reachable) (hc : r.class? id = some c)
    (hm : ofClass r id = .ok m) (hget : m.accessor .get name = .ok (.readField g))
    (hset : m.accessor .set name = .ok (.writeField f)) :
    (¬ g.IsConstant → g = f) ∧ (g.IsConstant → g.id ≠ f.id) := by
  have hread : m.accessor .get name = .ok (g.accessor .get) := hget
  have hwritten : m.accessor .set name = .ok (f.accessor .set) := hset
  obtain ⟨fields, hfields, hfirst⟩ := exists_find?_of_accessor hc hm hread
  obtain ⟨fields', hfields', hfirst'⟩ := exists_find?_of_accessor hc hm hwritten
  cases hfields.symm.trans hfields'
  have hf : f.Provides .set name := by simpa using List.find?_some hfirst'
  constructor
  · intro hvariable
    obtain ⟨hg, before, behind, hsplit, hbefore⟩ := List.find?_eq_some_iff_append.1 hfirst
    -- what is not read before it is not written before it either
    have hfirst'' : fields.find? (·.Provides .set name) = some g := by
      refine List.find?_eq_some_iff_append.2 ⟨?_, before, behind, hsplit, fun k hk => ?_⟩
      · exact decide_eq_true (Field.provides_set_iff.2 ⟨of_decide_eq_true hg, hvariable⟩)
      · have hnot : ¬ k.Provides .get name := by simpa using hbefore k hk
        simpa using fun hprovides => hnot (Field.provides_set_iff.1 hprovides).1
    exact Option.some.inj (hfirst''.symm.trans hfirst')
  · intro hconstant heq
    obtain ⟨owner, -, c₁, hc₁, hg⟩ :=
      (Registry.mem_chainFields_iff hfields).1 (List.mem_of_find?_eq_some hfirst)
    obtain ⟨owner', -, c₂, hc₂, hf'⟩ :=
      (Registry.mem_chainFields_iff hfields).1 (List.mem_of_find?_eq_some hfirst')
    obtain rfl := h.eq_of_mem_fields hc₁ hc₂ hg hf' heq
    exact (Field.provides_set_iff.1 hf).2 hconstant

/-- In the metadata of a registered class, a property that is read and written through fields and
not read through a constant is read and written through one field, and once a value has been written
it is read.  If it is read through a constant, then another field is written, and what is read is
the same as if nothing had been written. -/
theorem exists_ofClass_readBack (h : r.Reachable) (hc : r.class? id = some c) :
    ∃ m, ofClass r id = .ok m ∧ ∀ name g f,
      m.accessor .get name = .ok (.readField g) → m.accessor .set name = .ok (.writeField f) →
      (¬ g.IsConstant → g = f ∧ ∀ s s' target value result,
        m.invoke s .set name target [value] = (.ok result, s') →
          m.invoke s' .get name target [] = (.ok value, s')) ∧
      (g.IsConstant → g ≠ f ∧ ∀ s target value target',
        (m.invoke (m.invoke s .set name target [value]).2 .get name target' []).1 =
          (m.invoke s .get name target' []).1) := by
  obtain ⟨m, hm⟩ := exists_ofClass_eq_ok h.wellFormed hc
  refine ⟨m, hm, fun name g f hget hset => ?_⟩
  obtain ⟨hsame, hother⟩ := eq_or_isConstant_of_accessors h hc hm hget hset
  simp only [invoke, hget, hset]
  constructor
  · intro hvariable
    obtain rfl := hsame hvariable
    exact ⟨rfl, fun s s' target value result hok => Accessor.invoke_readField_of_writeField hok⟩
  · intro hconstant
    have hne := hother hconstant
    exact ⟨fun heq => hne (congrArg (·.id) heq), fun s target value target' =>
      Accessor.fst_invoke_readField_writeField hconstant.1 hne target'⟩

/-- The drafts of a class with a field, and of one that extends it and hides the field behind a
constant. -/
def levelDrafts : List ClassDraft :=
  [(ClassDraft.ofKind ⟨7⟩ "Gauge" .ordinary).withField
      { FieldDraft.named "level" (.ofClass ⟨3⟩) with initial := .int 1 },
    ((ClassDraft.ofKind ⟨8⟩ "FixedGauge" .ordinary).withSuperclass (.ofClass ⟨7⟩)).withField
      { FieldDraft.named "level" (.ofClass ⟨3⟩) with
        modifiers := Modifiers.staticFlag.union .finalFlag, initial := .int 10 }]

theorem levelDrafts_reachable :
    ((Registry.definitionCalls levelDrafts).foldl Registry.after .initial).Reachable :=
  Registry.reachable_definitionCalls (by decide)

/-- Whether the level is read and written through fields, and read through one with or without the
static modifier. -/
def levelThroughFields (m : Metadata) (isStatic : Bool) : Bool :=
  ((m.accessor .get "level").toOption.any fun a => a.method?.isNone && decide (a.direction = .get ∧
    a.member.modifiers.isStatic = isStatic)) &&
  (m.accessor .set "level").toOption.any fun a => a.method?.isNone && decide (a.direction = .set)

theorem exists_fields_of_levelThroughFields {isStatic : Bool}
    (hlevel : m.levelThroughFields isStatic = true) :
    ∃ g f, m.accessor .get "level" = .ok (.readField g) ∧ g.modifiers.isStatic = isStatic ∧
      m.accessor .set "level" = .ok (.writeField f) := by
  obtain ⟨hget, hset⟩ := Bool.and_eq_true_iff.1 hlevel
  obtain ⟨a, ha, hread⟩ := (Option.any_eq_true _ _).1 hget
  obtain ⟨b, hb, hwritten⟩ := (Option.any_eq_true _ _).1 hset
  obtain ⟨hnone, hread⟩ := Bool.and_eq_true_iff.1 hread
  obtain ⟨hnone', hwritten⟩ := Bool.and_eq_true_iff.1 hwritten
  obtain ⟨hdirection, hstatic⟩ := of_decide_eq_true hread
  obtain ⟨g, hg⟩ := Accessor.exists_field_of_isNone hnone
  obtain ⟨f, hf⟩ := Accessor.exists_field_of_isNone hnone'
  rw [hdirection] at hg
  rw [of_decide_eq_true hwritten] at hf
  subst hg hf
  exact ⟨g, f, Except.toOption_eq_some_iff.1 ha, hstatic, Except.toOption_eq_some_iff.1 hb⟩

/-- The level of an object of the first class is read as it has been written. -/
theorem levelDrafts_readBack :
    let r := (Registry.definitionCalls levelDrafts).foldl Registry.after .initial
    ∃ c m, r.class? ⟨7⟩ = some c ∧ ofClass r ⟨7⟩ = .ok m ∧
      let object := Heap.empty.allocate c.layout
      let s : State := { State.initial with heap := object.2 }
      ∃ s', m.invoke s .set "level" (.object object.1) [.int 5] = (.ok .null, s') ∧
        m.invoke s' .get "level" (.object object.1) [] = (.ok (.int 5), s') := by
  intro r
  obtain ⟨c, hc⟩ : ∃ c, r.class? ⟨7⟩ = some c := Option.isSome_iff_exists.1 (by decide +kernel)
  obtain ⟨m, hm, hfields⟩ := exists_ofClass_readBack levelDrafts_reachable hc
  refine ⟨c, m, hc, hm, ?_⟩
  intro object s
  have hshown : ((r.class? ⟨7⟩).any fun c => (ofClass r ⟨7⟩).toOption.any fun m =>
      let object := Heap.empty.allocate c.layout
      let s : State := { State.initial with heap := object.2 }
      let written := m.invoke s .set "level" (.object object.1) [.int 5]
      m.levelThroughFields false && decide (written.1.toOption = some .null)) = true := by
    decide +kernel
  rw [hc, hm] at hshown
  obtain ⟨hlevel, hwritten⟩ := Bool.and_eq_true_iff.1 hshown
  obtain ⟨g, f, hget, hstatic, hset⟩ := exists_fields_of_levelThroughFields hlevel
  have hvariable : ¬ g.IsConstant := fun hconstant =>
    Bool.false_ne_true (hstatic.symm.trans hconstant.1)
  have hok : m.invoke s .set "level" (.object object.1) [.int 5] =
      (.ok .null, (m.invoke s .set "level" (.object object.1) [.int 5]).2) :=
    Prod.ext (Except.toOption_eq_some_iff.1 (of_decide_eq_true hwritten)) rfl
  exact ⟨_, hok, ((hfields "level" g f hget hset).1 hvariable).2 _ _ _ _ _ hok⟩

/-- The level of an object of the second class is read through the constant, whatever has been
written to it. -/
theorem levelDrafts_reads_constant :
    let r := (Registry.definitionCalls levelDrafts).foldl Registry.after .initial
    r.Reachable ∧ ∃ c m g f, r.class? ⟨8⟩ = some c ∧ ofClass r ⟨8⟩ = .ok m ∧
      m.accessor .get "level" = .ok (.readField g) ∧
      m.accessor .set "level" = .ok (.writeField f) ∧
      let object := Heap.empty.allocate c.layout
      let s : State := { State.initial with heap := object.2 }
      let written := m.invoke s .set "level" (.object object.1) [.int 5]
      written.1.toOption = some .null ∧
        (m.invoke written.2 .get "level" (.object object.1) []).1.toOption = some (.int 10) := by
  intro r
  have hshown : ((r.class? ⟨8⟩).any fun c => (ofClass r ⟨8⟩).toOption.any fun m =>
      let object := Heap.empty.allocate c.layout
      let s : State := { State.initial with heap := object.2 }
      let written := m.invoke s .set "level" (.object object.1) [.int 5]
      m.levelThroughFields true && decide (written.1.toOption = some .null ∧
        (m.invoke written.2 .get "level" (.object object.1) []).1.toOption =
          some (.int 10))) = true := by
    decide +kernel
  obtain ⟨c, hc, hshown⟩ := (Option.any_eq_true _ _).1 hshown
  obtain ⟨m, hm, hshown⟩ := (Option.any_eq_true _ _).1 hshown
  obtain ⟨hlevel, hread⟩ := Bool.and_eq_true_iff.1 hshown
  obtain ⟨g, f, hget, -, hset⟩ := exists_fields_of_levelThroughFields hlevel
  exact ⟨levelDrafts_reachable, c, m, g, f, hc, Except.toOption_eq_some_iff.1 hm, hget, hset,
    of_decide_eq_true hread⟩

end Metadata

end Introspection
