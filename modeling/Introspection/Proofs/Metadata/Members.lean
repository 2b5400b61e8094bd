import Introspection.Metadata.Build
import Introspection.Proofs.Metadata.Candidates
import Introspection.Proofs.Metadata.Tables
import Introspection.Proofs.Registry.Reachable
import Introspection.Proofs.Types.Instantiation

/-!
# What properties are made of

The properties of a class are made of methods and fields (`Origin`): those of a record of its
methods alone, those of any other class of its accessor methods, and of the fields of its superclass
chain where no method covers them.

`PropertyTable.Shows` says of a table that it shows what an origin provides in a direction: the
names are exactly those for which there is a method or a field, and the accessor and the class
recorded for a name come from one of these (`Property.ComesFrom`).  Making the tables never fails,
whatever the methods and fields are: selection only chooses among candidates, and every type can be
resolved as seen from a class.  The main statements are `Registry.exists_ordinaryProperties_eq_ok`
and `Registry.exists_recordProperties_eq_ok`.
-/

namespace Introspection

variable {h : Hierarchy} {source : ClassId} {direction : Direction} {name : String} {m : Method}
  {f : Field}

/-! ### Types -/

namespace Hierarchy

/-- Every type can be resolved as seen from a class. -/
theorem exists_resolve_ofClass_eq_ok (h : Hierarchy) (source declaring : ClassId) (ty : Ty) :
    ∃ resolved, h.resolve ty (.ofClass source) declaring = .ok resolved := by
  have himage : ∀ v bounds, h.image (.ofClass source) declaring v bounds =
      .ok ((h.imageWithin declaring v bounds (h.declarations.length + 1)
        (.ofClass source)).getD .object) := fun _ _ => rfl
  exact ⟨_, Ty.substitute_eq_ok ty fun v _ bounds => himage v bounds⟩

/-- The class of a type as seen from a class is that of the resolved type. -/
theorem resolvedClass_eq_ok_iff {declaring : ClassId} {ty : Ty} {type : ClassRef} :
    h.resolvedClass source ty declaring = .ok type ↔
      ∃ resolved, h.resolve ty (.ofClass source) declaring = .ok resolved ∧
        resolved.collapse = type := by
  unfold resolvedClass
  cases h.resolve ty (.ofClass source) declaring <;> simp

/-- Every type has a class as seen from a class. -/
theorem exists_resolvedClass_eq_ok (h : Hierarchy) (source declaring : ClassId) (ty : Ty) :
    ∃ type, h.resolvedClass source ty declaring = .ok type := by
  obtain ⟨resolved, hresolved⟩ := h.exists_resolve_ofClass_eq_ok source declaring ty
  exact ⟨resolved.collapse, resolvedClass_eq_ok_iff.2 ⟨resolved, hresolved, rfl⟩⟩

/-- The class of what a method takes first is that of the type of its first parameter. -/
theorem resolvedParam_eq (h : Hierarchy) (source : ClassId) (m : Method) :
    h.resolvedParam source m = h.resolvedClass source (m.params.headD .object) m.declaring := by
  choose resolved hresolved using h.exists_resolve_ofClass_eq_ok source m.declaring
  have hall : h.resolveAll m.params (.ofClass source) m.declaring =
      .ok (m.params.map resolved) := Ty.substituteAll_eq_ok fun ty _ => hresolved ty
  rw [resolvedParam, hall]
  cases hparams : m.params with
  | nil => rfl
  | cons first rest =>
    rw [List.headD_cons, resolvedClass, hresolved]
    rfl

end Hierarchy

/-! ### Members -/

/-- The method behind an accessor that uses one, or would use it if it were not ambiguous. -/
def Accessor.method? : Accessor → Option Method
  | method m => some m
  | ambiguous m _ => some m
  | _ => none

/-- The type, as written, of the value that a method returns or takes. -/
def Method.valueTy (direction : Direction) (m : Method) : Ty :=
  match direction with
  | .get => m.returnType
  | .set => m.params.headD .object

/-- A method provides one direction of a property: as one of the components of a record, which can
be read alone, or else as an accessor. -/
def Method.Provides (inRecord : Bool) (direction : Direction) (name : String) (m : Method) : Prop :=
  if inRecord then direction = .get ∧ m.params = [] ∧ m.name = name
  else m.Accesses direction name

/-- A field provides one direction of a property: it can be written unless it is final and static,
and read in any case. -/
def Field.Provides (direction : Direction) (name : String) (f : Field) : Prop :=
  f.name = name ∧ PropertyName.isAllowed name = true ∧
    (direction = .set → (f.modifiers.isFinal && f.modifiers.isStatic) = false)

/-- What reads or writes a field. -/
def Field.accessor (direction : Direction) (f : Field) : Accessor :=
  match direction with
  | .get => .readField f
  | .set => .writeField f

/-- The direction of a method is that in which it provides a property. -/
theorem Method.Provides.direction_eq {inRecord : Bool} (hm : m.Provides inRecord direction name) :
    m.direction = direction := by
  unfold Provides at hm
  unfold Method.direction
  split at hm
  · obtain ⟨rfl, hparams, -⟩ := hm
    simp [hparams]
  · cases direction with
    | get => simp [(Method.accesses_get_iff.1 hm).1]
    | set => simp [(Method.accesses_set_iff.1 hm).1]

/-- What the properties of a class are made of. -/
structure Origin where
  /-- The hierarchy in which types are resolved. -/
  hierarchy : Hierarchy
  /-- The class. -/
  classId : ClassId
  /-- Whether the class is a record. -/
  isRecord : Bool
  /-- The methods of the class. -/
  methods : List Method
  /-- The fields of the class. -/
  fields : List Field

namespace Origin

variable {o : Origin}

/-- The origin with one more field. -/
def withField (o : Origin) (f : Field) : Origin :=
  { o with fields := o.fields ++ [f] }

/-- Some method or field provides a direction of a property. -/
def Provides (o : Origin) (direction : Direction) (name : String) : Prop :=
  (∃ m ∈ o.methods, m.Provides o.isRecord direction name) ∨
    ∃ f ∈ o.fields, f.Provides direction name

/-- A further field provides what it provides. -/
theorem provides_withField_iff :
    (o.withField f).Provides direction name ↔
      o.Provides direction name ∨ f.Provides direction name := by
  simp only [Provides, withField, List.mem_append, List.mem_singleton, or_and_right, exists_or,
    exists_eq_left, or_assoc]

end Origin

/-- The accessor is that of a method or of a field that provides the property, and the class is the
one that the type of this member has as seen from the class. -/
inductive Property.ComesFrom (o : Origin) (direction : Direction) (name : String) :
    Property → Prop where
  /-- The member is a method. -/
  | method {m : Method} {a : Accessor} {type : ClassRef} (hm : m ∈ o.methods)
      (hprovides : m.Provides o.isRecord direction name) (ha : a.method? = some m)
      (htype : o.hierarchy.resolvedClass o.classId (m.valueTy direction) m.declaring = .ok type) :
      ComesFrom o direction name ⟨a, type⟩
  /-- The member is a field. -/
  | field {f : Field} {type : ClassRef} (hf : f ∈ o.fields) (hprovides : f.Provides direction name)
      (htype : o.hierarchy.resolvedClass o.classId f.type f.declaring = .ok type) :
      ComesFrom o direction name ⟨f.accessor direction, type⟩

/-- What comes from an origin comes from it when it has one more field. -/
theorem Property.ComesFrom.withField {o : Origin} {p : Property}
    (hp : Property.ComesFrom o direction name p) :
    Property.ComesFrom (o.withField f) direction name p := by
  cases hp with
  | method hm hprovides ha htype => exact .method hm hprovides ha htype
  | field hf hprovides htype => exact .field (List.mem_append_left _ hf) hprovides htype

/-- What comes from an origin is provided by it. -/
theorem Property.ComesFrom.provides {o : Origin} {p : Property}
    (hp : Property.ComesFrom o direction name p) : o.Provides direction name := by
  cases hp with
  | method hm hprovides ha htype => exact .inl ⟨_, hm, hprovides⟩
  | field hf hprovides htype => exact .inr ⟨_, hf, hprovides⟩

/-- A table shows what an origin provides in a direction. -/
structure PropertyTable.Shows (o : Origin) (direction : Direction) (t : PropertyTable) : Prop where
  /-- What is recorded comes from the origin. -/
  holds : t.Holds (Property.ComesFrom o direction)
  /-- There is a property for everything that is provided. -/
  complete : ∀ {name}, o.Provides direction name → name ∈ t.names

/-- The properties shown are those that are provided. -/
theorem PropertyTable.Shows.mem_names_iff {o : Origin} {t : PropertyTable}
    (ht : t.Shows o direction) : name ∈ t.names ↔ o.Provides direction name := by
  refine ⟨fun hname => ?_, ht.complete⟩
  obtain ⟨a, type, -, -, hp⟩ := ht.holds.exists_of_mem_names hname
  exact hp.provides

/-- The tables of both directions show what an origin provides. -/
def Properties.Show (o : Origin) (p : Properties) : Prop :=
  p.getters.Shows o .get ∧ p.setters.Shows o .set

/-! ### Choices -/

namespace Hierarchy

/-- The getter chosen is one of the candidates. -/
theorem pickGetter_mem (winner : Method) (rest : List Method) :
    (h.pickGetter winner rest).1 ∈ winner :: rest := by
  induction rest generalizing winner with
  | nil => simp [pickGetter]
  | cons candidate rest ih =>
    have hwinner := ih winner
    have hcandidate := ih candidate
    unfold pickGetter
    split_ifs <;> grind

/-- The better of two setters is one of them. -/
theorem narrower_method (property : String) (choice : Option SetterChoice) (candidate : Method) :
    (h.narrower property choice candidate).method = candidate ∨
      ∃ current, choice = some current ∧
        (h.narrower property choice candidate).method = current.method := by
  unfold narrower
  split
  · exact .inl rfl
  · exact .inr ⟨_, rfl, rfl⟩
  · split_ifs
    · exact .inl rfl
    · exact .inr ⟨_, rfl, rfl⟩
    · exact .inr ⟨_, rfl, rfl⟩

/-- A setter that is recorded is one of the candidates, or what had been chosen before. -/
theorem method_mem_of_mem_recordedSetters {property : String} {wanted : Option ClassRef}
    {choice : Option SetterChoice} {candidates : List Method} {recorded : SetterChoice}
    (hrecorded : recorded ∈ h.recordedSetters property wanted choice candidates) :
    recorded.method ∈ candidates ∨ ∃ current, choice = some current ∧
      recorded.method = current.method := by
  induction candidates generalizing choice with
  | nil => exact .inr ⟨recorded, Option.mem_toList.1 hrecorded, rfl⟩
  | cons candidate rest ih =>
    unfold recordedSetters at hrecorded
    split at hrecorded
    · rcases List.mem_append.1 hrecorded with hambiguous | hexact
      · have hsome := Option.mem_toList.1 hambiguous
        exact .inr ⟨recorded, (Option.filter_eq_some_iff.1 hsome).1, rfl⟩
      · rw [List.mem_singleton.1 hexact]
        exact .inl List.mem_cons_self
    · rcases ih hrecorded with hrest | ⟨current, hcurrent, heq⟩
      · exact .inl (List.mem_cons_of_mem _ hrest)
      · cases hcurrent
        rcases h.narrower_method property choice candidate with hnew | ⟨current, hold, hmethod⟩
        · exact .inl (by simp [heq, hnew])
        · exact .inr ⟨current, hold, heq.trans hmethod⟩

/-- Where there is a candidate or an earlier choice, some setter is recorded. -/
theorem recordedSetters_ne_nil {property : String} {wanted : Option ClassRef}
    {choice : Option SetterChoice} {candidates : List Method}
    (hsome : choice.isSome = true ∨ candidates ≠ []) :
    h.recordedSetters property wanted choice candidates ≠ [] := by
  induction candidates generalizing choice with
  | nil =>
    obtain ⟨current, rfl⟩ := Option.isSome_iff_exists.1 (hsome.resolve_right (by simp))
    simp [recordedSetters]
  | cons candidate rest ih =>
    unfold recordedSetters
    split
    · simp
    · exact ih (.inl rfl)

/-! ### Properties from methods -/

variable {methods : List Method}

/-- A method reads a value of the class that its type has as seen from the class. -/
theorem exists_readBy_eq_ok (h : Hierarchy) (source : ClassId) (m : Method) (a : Accessor) :
    ∃ type, h.readBy source m a = .ok ⟨a, type⟩ ∧
      h.resolvedClass source (m.valueTy .get) m.declaring = .ok type := by
  obtain ⟨type, htype⟩ := h.exists_resolvedClass_eq_ok source m.declaring m.returnType
  exact ⟨type, by rw [readBy, htype]; rfl, htype⟩

/-- A method writes a value of the class that its type has as seen from the class. -/
theorem exists_writtenBy_eq_ok (h : Hierarchy) (source : ClassId) (m : Method) (a : Accessor) :
    ∃ type, h.writtenBy source m a = .ok ⟨a, type⟩ ∧
      h.resolvedClass source (m.valueTy .set) m.declaring = .ok type := by
  obtain ⟨type, htype⟩ :=
    h.exists_resolvedClass_eq_ok source m.declaring (m.params.headD .object)
  exact ⟨type, by rw [writtenBy, resolvedParam_eq, htype]; rfl, htype⟩

/-- Whatever is recorded for each group of candidates, if it is something and comes from one of the
candidates, then the resulting table shows what accessors among the methods provide. -/
theorem exists_shows_of_groups (direction : Direction) (methods : List Method)
    {recorded : String × List Method → Except ReflectionError (List (String × Property))}
    (hrecorded : ∀ property ms, ms ≠ [] → ∃ entries, recorded (property, ms) = .ok entries ∧
      entries ≠ [] ∧ ∀ entry ∈ entries, entry.1 = property ∧ ∃ m ∈ ms,
        entry.2.accessor.method? = some m ∧ h.resolvedClass source (m.valueTy direction)
          m.declaring = .ok entry.2.type) :
    ∃ groups entries, Registry.candidates (Method.isAccessor direction) methods = .ok groups ∧
      groups.entries.mapM recorded = .ok entries ∧
        (PropertyTable.ofList entries.flatten).Shows ⟨h, source, false, methods, []⟩ direction := by
  obtain ⟨groups, hgroups, hmem⟩ := Registry.exists_candidates_eq_ok direction methods
  have hstep : ∀ group ∈ groups.entries, ∃ entries, recorded group = .ok entries := by
    rintro ⟨property, ms⟩ hgroup
    obtain ⟨entries, hentries, -⟩ := hrecorded property ms ((hmem property ms).1 hgroup).2
    exact ⟨entries, hentries⟩
  obtain ⟨entries, hentries⟩ := Except.exists_mapM_eq_ok hstep
  refine ⟨groups, entries, hgroups, hentries, PropertyTable.holds_ofList ?comesFrom, ?complete⟩
  case comesFrom =>
    intro entry hentry
    obtain ⟨made, hmade, hentry⟩ := List.mem_flatten.1 hentry
    obtain ⟨⟨property, ms⟩, hgroup, heq⟩ := Except.exists_of_mem_mapM_eq_ok hentries hmade
    obtain ⟨rfl, hne⟩ := (hmem property ms).1 hgroup
    obtain ⟨made', hmade', -, hfrom⟩ := hrecorded property _ hne
    cases heq.symm.trans hmade'
    obtain ⟨hproperty, m, hm, ha, htype⟩ := hfrom entry hentry
    obtain ⟨hm, haccesses⟩ := List.mem_filter.1 hm
    have haccesses : m.Accesses direction entry.1 := hproperty ▸ of_decide_eq_true haccesses
    exact .method hm haccesses ha htype
  case complete =>
    rintro name (⟨m, hm, haccesses⟩ | ⟨f, hf, -⟩)
    · have hcandidate : m ∈ methods.filter (·.Accesses direction name) :=
        List.mem_filter.2 ⟨hm, decide_eq_true haccesses⟩
      have hne := List.ne_nil_of_mem hcandidate
      obtain ⟨made, hmade, heq⟩ :=
        Except.exists_mem_of_mapM_eq_ok hentries ((hmem name _).2 ⟨rfl, hne⟩)
      obtain ⟨made', hmade', hsome, hfrom⟩ := hrecorded name _ hne
      cases heq.symm.trans hmade'
      obtain ⟨entry, hentry⟩ := List.exists_mem_of_ne_nil made hsome
      exact PropertyTable.mem_names_ofList.2
        ⟨entry, List.mem_flatten.2 ⟨made, hmade, hentry⟩, (hfrom entry hentry).1⟩
    · cases hf

/-- A group of getters makes one of them the getter of the property. -/
theorem exists_getterOf_eq_ok (h : Hierarchy) (source : ClassId) (property : String)
    (ms : List Method) (hms : ms ≠ []) :
    ∃ entries, h.getterOf source (property, ms) = .ok entries ∧ entries ≠ [] ∧
      ∀ entry ∈ entries, entry.1 = property ∧ ∃ m ∈ ms, entry.2.accessor.method? = some m ∧
        h.resolvedClass source (m.valueTy .get) m.declaring = .ok entry.2.type := by
  obtain ⟨first, rest, rfl⟩ := List.exists_cons_of_ne_nil hms
  have hpicked := h.pickGetter_mem first rest
  generalize hpick : h.pickGetter first rest = picked at hpicked
  obtain ⟨m, ambiguous⟩ := picked
  generalize haccessor : (if ambiguous then
    Accessor.ambiguous m (.getters property (h.refName (.declared m.declaring))) else
      .method m) = a
  have ha : a.method? = some m := by
    rw [← haccessor]
    split <;> rfl
  obtain ⟨type, hread, htype⟩ := h.exists_readBy_eq_ok source m a
  refine ⟨[(property, ⟨a, type⟩)], ?_, by simp, fun entry hentry => ?_⟩
  · simp only [getterOf, hpick, haccessor, hread]
    rfl
  · rw [List.mem_singleton.1 hentry]
    exact ⟨rfl, m, hpicked, ha, htype⟩

/-- A group of setters makes some of them the setter of the property, one after the other. -/
theorem exists_setterOf_eq_ok (h : Hierarchy) (source : ClassId) (getters : PropertyTable)
    (property : String) (ms : List Method) (hms : ms ≠ []) :
    ∃ entries, h.setterOf source getters (property, ms) = .ok entries ∧ entries ≠ [] ∧
      ∀ entry ∈ entries, entry.1 = property ∧ ∃ m ∈ ms, entry.2.accessor.method? = some m ∧
        h.resolvedClass source (m.valueTy .set) m.declaring = .ok entry.2.type := by
  have hstep : ∀ choice ∈ h.recordedSetters property (wantedClass getters property) none ms,
      ∃ entry : String × Property,
        (h.writtenBy source choice.method choice.accessor).map (fun p => (property, p)) =
          .ok entry := by
    intro choice _
    obtain ⟨type, hwritten, -⟩ := h.exists_writtenBy_eq_ok source choice.method choice.accessor
    exact ⟨_, by rw [hwritten]; rfl⟩
  obtain ⟨entries, hentries⟩ := Except.exists_mapM_eq_ok hstep
  refine ⟨entries, hentries, ?_, fun entry hentry => ?_⟩
  · have hne : h.recordedSetters property (wantedClass getters property) none ms ≠ [] :=
      recordedSetters_ne_nil (.inr hms)
    obtain ⟨choice, hchoice⟩ := List.exists_mem_of_ne_nil _ hne
    obtain ⟨entry, hentry, -⟩ := Except.exists_mem_of_mapM_eq_ok hentries hchoice
    exact List.ne_nil_of_mem hentry
  · obtain ⟨choice, hchoice, heq⟩ := Except.exists_of_mem_mapM_eq_ok hentries hentry
    obtain ⟨type, hwritten, htype⟩ := h.exists_writtenBy_eq_ok source choice.method choice.accessor
    rw [hwritten] at heq
    cases heq
    refine ⟨rfl, choice.method, ?_, ?_, htype⟩
    · exact (h.method_mem_of_mem_recordedSetters hchoice).resolve_right (by simp)
    · cases choice <;> rfl

/-- The getters made of some methods show what these provide. -/
theorem exists_gettersOf_eq_ok (h : Hierarchy) (source : ClassId) (methods : List Method) :
    ∃ getters, h.gettersOf source methods = .ok getters ∧
      getters.Shows ⟨h, source, false, methods, []⟩ .get := by
  obtain ⟨groups, entries, hgroups, hentries, hshows⟩ :=
    exists_shows_of_groups .get methods (h.exists_getterOf_eq_ok source)
  refine ⟨_, ?_, hshows⟩
  exact Except.bind_eq_ok_iff.2 ⟨groups, hgroups, Except.bind_eq_ok_iff.2 ⟨entries, hentries, rfl⟩⟩

/-- The setters made of some methods show what these provide, whatever the getters are. -/
theorem exists_settersOf_eq_ok (h : Hierarchy) (source : ClassId) (getters : PropertyTable)
    (methods : List Method) :
    ∃ setters, h.settersOf source getters methods = .ok setters ∧
      setters.Shows ⟨h, source, false, methods, []⟩ .set := by
  obtain ⟨groups, entries, hgroups, hentries, hshows⟩ :=
    exists_shows_of_groups .set methods (h.exists_setterOf_eq_ok source getters)
  refine ⟨_, ?_, hshows⟩
  exact Except.bind_eq_ok_iff.2 ⟨groups, hgroups, Except.bind_eq_ok_iff.2 ⟨entries, hentries, rfl⟩⟩

/-- The properties of a record show its methods without parameters. -/
theorem exists_componentsOf_eq_ok (h : Hierarchy) (source : ClassId) (methods : List Method) :
    ∃ getters, h.componentsOf source methods = .ok getters ∧
      getters.Shows ⟨h, source, true, methods, []⟩ .get := by
  have hstep : ∀ m ∈ methods.filter (·.params.isEmpty), ∃ entry : String × Property,
      (h.readBy source m (.method m)).map (fun p => (m.name, p)) = .ok entry := by
    intro m _
    obtain ⟨type, hread, -⟩ := h.exists_readBy_eq_ok source m (.method m)
    exact ⟨_, by rw [hread]; rfl⟩
  obtain ⟨entries, hentries⟩ := Except.exists_mapM_eq_ok hstep
  have hentry : ∀ entry ∈ entries, ∃ m ∈ methods, m.params = [] ∧ m.name = entry.1 ∧
      entry.2.accessor = .method m ∧
        h.resolvedClass source (m.valueTy .get) m.declaring = .ok entry.2.type := by
    intro entry hentry
    obtain ⟨m, hm, heq⟩ := Except.exists_of_mem_mapM_eq_ok hentries hentry
    obtain ⟨type, hread, htype⟩ := h.exists_readBy_eq_ok source m (.method m)
    rw [hread] at heq
    cases heq
    obtain ⟨hm, hparams⟩ := List.mem_filter.1 hm
    exact ⟨m, hm, List.isEmpty_iff.1 hparams, rfl, rfl, htype⟩
  refine ⟨_, Except.bind_eq_ok_iff.2 ⟨entries, hentries, rfl⟩,
    PropertyTable.holds_ofList ?comesFrom, ?complete⟩
  case comesFrom =>
    intro entry hin
    obtain ⟨m, hm, hparams, hname, ha, htype⟩ := hentry entry hin
    exact .method hm ⟨rfl, hparams, hname⟩ (by rw [ha]; rfl) htype
  case complete =>
    rintro name (⟨m, hm, -, hparams, rfl⟩ | ⟨f, hf, -⟩)
    · have hcomponent : m ∈ methods.filter (·.params.isEmpty) :=
        List.mem_filter.2 ⟨hm, List.isEmpty_iff.2 hparams⟩
      obtain ⟨entry, hin, heq⟩ := Except.exists_mem_of_mapM_eq_ok hentries hcomponent
      obtain ⟨p, -, rfl⟩ := Except.map_eq_ok_iff.1 heq
      exact PropertyTable.mem_names_ofList.2 ⟨_, hin, rfl⟩
    · cases hf

end Hierarchy

/-! ### Properties from fields -/

namespace PropertyTable.Shows

variable {o : Origin} {t : PropertyTable}

/-- A field that provides nothing needs no place in the table. -/
theorem skip (ht : t.Shows o direction) (hnot : ∀ name, ¬ f.Provides direction name) :
    t.Shows (o.withField f) direction where
  holds := ht.holds.mono fun _ _ hp => hp.withField
  complete hprovides :=
    ht.complete ((Origin.provides_withField_iff.1 hprovides).resolve_right (hnot _))

/-- A field is recorded where nothing else has been found. -/
theorem addMissing (ht : t.Shows o direction) (hf : f.Provides direction f.name) {type : ClassRef}
    (htype : o.hierarchy.resolvedClass o.classId f.type f.declaring = .ok type) :
    (Hierarchy.addMissing t f.name ⟨f.accessor direction, type⟩).Shows
      (o.withField f) direction := by
  have hholds : t.Holds (Property.ComesFrom (o.withField f) direction) :=
    ht.holds.mono fun _ _ hp => hp.withField
  unfold Hierarchy.addMissing
  split
  · next hcontains =>
    refine ⟨hholds, fun {name} hprovides => ?_⟩
    rcases Origin.provides_withField_iff.1 hprovides with hold | ⟨rfl, -⟩
    · exact ht.complete hold
    · exact contains_iff_mem_names.1 hcontains
  · refine ⟨hholds.record (.field (by simp [Origin.withField]) hf htype), fun hprovides => ?_⟩
    rw [mem_names_record]
    rcases Origin.provides_withField_iff.1 hprovides with hold | ⟨rfl, -⟩
    · exact .inr (ht.complete hold)
    · exact .inl rfl

end PropertyTable.Shows

namespace Hierarchy

variable {o : Origin} {p : Properties}

/-- Adding what a field provides shows the field as well. -/
theorem exists_addField_eq_ok (hp : p.Show o) (f : Field) :
    ∃ p', o.hierarchy.addField o.classId p f = .ok p' ∧ p'.Show (o.withField f) := by
  obtain ⟨type, htype⟩ := o.hierarchy.exists_resolvedClass_eq_ok o.classId f.declaring f.type
  unfold addField
  cases hallowed : PropertyName.isAllowed f.name with
  | false =>
    have hnot : ∀ direction name, ¬ f.Provides direction name := by
      rintro direction name ⟨rfl, hname, -⟩
      rw [hallowed] at hname
      cases hname
    exact ⟨p, rfl, hp.1.skip (hnot .get), hp.2.skip (hnot .set)⟩
  | true =>
    have hget : f.Provides .get f.name := ⟨rfl, hallowed, nofun⟩
    rw [if_pos rfl, htype]
    refine ⟨_, rfl, hp.1.addMissing hget htype, ?_⟩
    cases hconstant : f.modifiers.isFinal && f.modifiers.isStatic with
    | true =>
      refine hp.2.skip ?_
      rintro name ⟨-, -, hwritable⟩
      rw [hconstant] at hwritable
      exact absurd (hwritable rfl) (by simp)
    | false =>
      have hset : f.Provides .set f.name := ⟨rfl, hallowed, fun _ => hconstant⟩
      exact hp.2.addMissing hset htype

/-- Adding what some fields provide shows these fields as well. -/
theorem exists_foldlM_addField_eq_ok (hp : p.Show o) (fields : List Field) :
    ∃ p', fields.foldlM (o.hierarchy.addField o.classId) p = .ok p' ∧
      p'.Show { o with fields := o.fields ++ fields } := by
  induction fields generalizing o p with
  | nil => exact ⟨p, rfl, by rwa [List.append_nil]⟩
  | cons f fields ih =>
    obtain ⟨p', hadd, hp'⟩ := exists_addField_eq_ok hp f
    obtain ⟨p'', hrest, hp''⟩ := ih hp'
    refine ⟨p'', ?_, ?_⟩
    · rw [List.foldlM_cons, hadd]
      exact hrest
    · rwa [Origin.withField, List.append_assoc] at hp''

end Hierarchy

/-! ### Properties of a class -/

namespace Registry

/-- The properties of a class that is no record show its accessor methods and its fields. -/
theorem exists_ordinaryProperties_eq_ok {r : Registry} {id : ClassId} {fields : List Field}
    (hfields : r.chainFields id = .ok fields) (methods : List Method) :
    ∃ p, r.ordinaryProperties id methods = .ok p ∧
      p.Show ⟨r.hierarchy, id, false, methods, fields⟩ := by
  obtain ⟨getters, hgetters, hread⟩ := r.hierarchy.exists_gettersOf_eq_ok id methods
  obtain ⟨setters, hsetters, hwritten⟩ := r.hierarchy.exists_settersOf_eq_ok id getters methods
  have hstart : Properties.Show ⟨r.hierarchy, id, false, methods, []⟩ ⟨getters, setters⟩ :=
    ⟨hread, hwritten⟩
  obtain ⟨p, hp, hshow⟩ := Hierarchy.exists_foldlM_addField_eq_ok hstart fields
  refine ⟨p, ?_, hshow⟩
  exact Except.bind_eq_ok_iff.2 ⟨getters, hgetters, Except.bind_eq_ok_iff.2 ⟨setters, hsetters,
    Except.bind_eq_ok_iff.2 ⟨fields, hfields, hp⟩⟩⟩

/-- The properties of a record show its methods without parameters. -/
theorem exists_recordProperties_eq_ok (r : Registry) (id : ClassId) (methods : List Method) :
    ∃ p, r.recordProperties id methods = .ok p ∧
      p.Show ⟨r.hierarchy, id, true, methods, []⟩ := by
  obtain ⟨getters, hgetters, hread⟩ := r.hierarchy.exists_componentsOf_eq_ok id methods
  refine ⟨⟨getters, .empty⟩, Except.bind_eq_ok_iff.2 ⟨getters, hgetters, rfl⟩, hread,
    PropertyTable.holds_empty, ?_⟩
  -- a record provides nothing to write
  rintro name (⟨m, -, hdirection, -⟩ | ⟨f, hf, -⟩)
  · cases hdirection
  · cases hf

end Registry

end Introspection
