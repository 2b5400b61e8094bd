import Introspection.Proofs.Metadata.Getters
import Introspection.Proofs.Metadata.SetterChoice

/-!
# Setters

Which of several setters a property is written through.  In the metadata of a registered class that
is no record, every property with setters among the collected methods can be written, and what it is
written through follows from these setters and from what the getter of the property returns
(`Metadata.exists_ofClass_setterRule`).

An ambiguity may be recorded first and the setter that takes its place after it, so what counts is
what has been recorded last under a name (`Hierarchy.exists_find?_settersOf`).  Fields are added
later and take no place that a method has (`PropertyTable.Supplements`), which goes for the getters
as well, so that the getter that the setters have been compared with is the one that is shown.
-/

namespace Introspection

variable {h : Hierarchy} {source : ClassId} {methods : List Method} {name : String} {p : Property}
  {t t' t'' getters : PropertyTable}

/-! ### Fields beside methods -/

namespace PropertyTable

/-- The class of the value of a property, if a definite method is recorded for it. -/
def methodType? (t : PropertyTable) (name : String) : Option ClassRef :=
  match t.find? name with
  | some ⟨.method _, type⟩ => some type
  | _ => none

theorem methodType?_eq_some_iff {type : ClassRef} :
    t.methodType? name = some type ↔
      ∃ m, t.accessors.find? name = some (.method m) ∧ t.types.find? name = some type := by
  have hfind : t.methodType? name = some type ↔ ∃ m, t.find? name = some ⟨.method m, type⟩ := by
    unfold methodType?
    split
    · next m type' heq => simp [heq]
    · next hnot =>
      simp only [reduceCtorEq, false_iff]
      rintro ⟨m, hm⟩
      exact hnot m type hm
  rw [hfind]
  exact exists_congr fun m => find?_eq_some_iff

/-- The first table has what the second one has, and beside it nothing that uses a method. -/
structure Supplements (t' t : PropertyTable) : Prop where
  /-- What is found in the second table is found in the first one. -/
  kept : ∀ {name p}, t.find? name = some p → t'.find? name = some p
  /-- What is found in the first table alone uses no method. -/
  added : ∀ {name p}, t.find? name = none → t'.find? name = some p → p.accessor.method? = none

theorem Supplements.refl (t : PropertyTable) : t.Supplements t where
  kept hp := hp
  added hnone hp := by simp [hnone] at hp

theorem Supplements.trans (h : t''.Supplements t') (h' : t'.Supplements t) : t''.Supplements t where
  kept hp := h.kept (h'.kept hp)
  added {name p} hnone hp := by
    cases hmiddle : t'.find? name with
    | none => exact h.added hmiddle hp
    | some q =>
      obtain rfl : q = p := Option.some.inj ((h.kept hmiddle).symm.trans hp)
      exact h'.added hnone hmiddle

/-- Both tables have the same methods. -/
theorem Supplements.methodType?_eq (h : t'.Supplements t) (name : String) :
    t'.methodType? name = t.methodType? name := by
  cases hfind : t.find? name with
  | some p => rw [methodType?, methodType?, hfind, h.kept hfind]
  | none =>
    have hbefore : t.methodType? name = none := by rw [methodType?, hfind]
    rw [hbefore, methodType?]
    split
    · next m type heq => cases h.added hfind heq
    · rfl

/-- What is added where nothing was supplements a table if it uses no method. -/
theorem supplements_addMissing (t : PropertyTable) (name : String)
    (hp : p.accessor.method? = none) : (Hierarchy.addMissing t name p).Supplements t := by
  unfold Hierarchy.addMissing
  split
  · exact .refl t
  · next hmissing =>
    have hnone : t.find? name = none := by
      rw [Option.eq_none_iff_forall_ne_some]
      intro q hq
      have haccessor : t.accessors.find? name = some q.accessor := (find?_eq_some_iff.1 hq).1
      exact hmissing (Option.isSome_iff_exists.2 ⟨_, haccessor⟩)
    constructor
    · intro other q hq
      have hne : other ≠ name := by
        rintro rfl
        simp [hnone] at hq
      rw [find?_record, if_neg hne]
      exact hq
    · intro other q hother hq
      rw [find?_record] at hq
      split at hq
      · obtain rfl : p = q := Option.some.inj hq
        exact hp
      · simp [hother] at hq

end PropertyTable

namespace Hierarchy

/-- A field takes no place that a method has. -/
theorem supplements_addField {properties properties' : Properties} {f : Field}
    (hok : h.addField source properties f = .ok properties') :
    properties'.getters.Supplements properties.getters ∧
      properties'.setters.Supplements properties.setters := by
  unfold addField at hok
  split at hok
  · obtain ⟨type, -, rfl⟩ := Except.map_eq_ok_iff.1 hok
    refine ⟨PropertyTable.supplements_addMissing _ _ rfl, ?_⟩
    dsimp only
    split
    · exact .refl _
    · exact PropertyTable.supplements_addMissing _ _ rfl
  · cases hok
    exact ⟨.refl _, .refl _⟩

/-! ### What is recorded last -/

/-- What is recorded under a name for some groups of methods is what is recorded for those of this
name. -/
theorem filter_flatten_of_mapM_eq_ok
    {f : String × List Method → Except ReflectionError (List (String × Property))}
    {groups : List (String × List Method)} {entries : List (List (String × Property))}
    (hnamed : ∀ group ∈ groups, ∀ made, f group = .ok made → ∀ entry ∈ made, entry.1 = group.1)
    (hok : groups.mapM f = .ok entries) (name : String) :
    ∃ made, (groups.filter fun group => group.1 = name).mapM f = .ok made ∧
      (entries.flatten.filter fun entry => entry.1 = name) = made.flatten := by
  induction groups generalizing entries with
  | nil =>
    rw [List.mapM_nil] at hok
    cases hok
    exact ⟨[], rfl, rfl⟩
  | cons group groups ih =>
    rw [List.mapM_cons] at hok
    obtain ⟨first, hfirst, hok⟩ := Except.bind_eq_ok_iff.1 hok
    obtain ⟨rest, hrest, hok⟩ := Except.bind_eq_ok_iff.1 hok
    cases hok
    have hgroup : ∀ entry ∈ first, entry.1 = group.1 :=
      hnamed group List.mem_cons_self first hfirst
    obtain ⟨made, hmade, hentries⟩ :=
      ih (fun other hother => hnamed other (List.mem_cons_of_mem group hother)) hrest
    rw [List.flatten_cons, List.filter_append, hentries]
    by_cases heq : group.1 = name
    · have hkept : (first.filter fun entry => entry.1 = name) = first :=
        List.filter_eq_self.2 fun entry hentry => decide_eq_true ((hgroup entry hentry).trans heq)
      refine ⟨first :: made, ?_, by rw [hkept, List.flatten_cons]⟩
      rw [List.filter_cons, if_pos (decide_eq_true heq), List.mapM_cons, hfirst, hmade]
      rfl
    · have hdropped : (first.filter fun entry => entry.1 = name) = [] :=
        List.filter_eq_nil_iff.2 fun entry hentry hname =>
          heq ((hgroup entry hentry).symm.trans (of_decide_eq_true hname))
      refine ⟨made, ?_, by rw [hdropped, List.nil_append]⟩
      rw [List.filter_cons_of_neg (by simpa using heq)]
      exact hmade

/-- What a group of setters makes is recorded under the name of its property. -/
theorem fst_eq_of_setterOf {group : String × List Method} {made : List (String × Property)}
    (hok : h.setterOf source getters group = .ok made) {entry : String × Property}
    (hentry : entry ∈ made) : entry.1 = group.1 := by
  obtain ⟨choice, -, hof⟩ := Except.exists_of_mem_mapM_eq_ok hok hentry
  obtain ⟨p, -, rfl⟩ := Except.map_eq_ok_iff.1 hof
  rfl

/-- A property with setters is written through what the choice among them comes to. -/
theorem Grounded.exists_find?_settersOf (hh : h.Grounded) {setters : PropertyTable}
    (hok : h.settersOf source getters methods = .ok setters)
    (hne : methods.filter (·.Accesses .set name) ≠ []) :
    ∃ choice type, setters.find? name = some ⟨choice.accessor, type⟩ ∧
      h.resolvedParam source choice.method = .ok type ∧
        h.ChoosesSetter (wantedClass getters name) (methods.filter (·.Accesses .set name))
          choice := by
  obtain ⟨groups, hgroups, hok⟩ := Except.bind_eq_ok_iff.1 hok
  obtain ⟨entries, hentries, hok⟩ := Except.bind_eq_ok_iff.1 hok
  cases hok
  obtain ⟨made, hmade, hunder⟩ := filter_flatten_of_mapM_eq_ok
    (fun group _ made hof entry hentry => fst_eq_of_setterOf hof hentry) hentries name
  rw [Registry.filter_candidates .set hgroups hne, List.mapM_cons] at hmade
  obtain ⟨recorded, hrecorded, hmade⟩ := Except.bind_eq_ok_iff.1 hmade
  cases hmade
  obtain ⟨choice, hlast, hchooses⟩ :=
    hh.exists_getLast?_recordedSetters name (wantedClass getters name) hne
  obtain ⟨entry, hentry, hof⟩ := Except.exists_getLast?_of_mapM_eq_ok hrecorded hlast
  obtain ⟨p, hwritten, rfl⟩ := Except.map_eq_ok_iff.1 hof
  obtain ⟨type, htype, rfl⟩ := Except.map_eq_ok_iff.1 hwritten
  have hgroup : (entries.flatten.filter fun entry => entry.1 = name) = recorded := by
    simpa using hunder
  refine ⟨choice, type, ?_, htype, hchooses⟩
  rw [PropertyTable.find?_ofList, hgroup, hentry]
  rfl

/-- The class that a setter should take is that of the definite method that the property is read
through. -/
theorem wantedClass_eq_methodType? (hok : h.gettersOf source methods = .ok getters)
    (name : String) : wantedClass getters name = getters.methodType? name := by
  obtain ⟨getters', hgetters', hshows⟩ := h.exists_gettersOf_eq_ok source methods
  cases hok.symm.trans hgetters'
  unfold wantedClass PropertyTable.methodType?
  cases hfind : getters.find? name with
  | none =>
    -- the two maps of the table are in step, so neither has the name
    have htypes : getters.types.find? name = none := by
      rw [Option.eq_none_iff_forall_ne_some]
      intro type htype
      have hsome : (getters.accessors.find? name).isSome = true := by
        rw [← hshows.holds.isSome_find?_types, htype]
        rfl
      obtain ⟨a, ha⟩ := Option.isSome_iff_exists.1 hsome
      have hboth : getters.find? name = some ⟨a, type⟩ :=
        PropertyTable.find?_eq_some_iff.2 ⟨ha, htype⟩
      cases hfind.symm.trans hboth
    simp [htypes]
  | some p =>
    obtain ⟨a, type⟩ := p
    obtain ⟨ha, htype⟩ := PropertyTable.find?_eq_some_iff.1 hfind
    rw [ha, htype]
    cases hshows.holds.property ha htype with
    | method hm hprovides hmethod => cases a <;> cases hmethod <;> rfl
    | field hf => cases hf

end Hierarchy

/-! ### The properties of a class -/

/-- A property with setters is written through what the choice among them comes to, where the wanted
class is that of the definite method that the property is read through. -/
theorem Registry.exists_find?_setters {r : Registry} (hh : r.hierarchy.Grounded) {id : ClassId}
    {properties : Properties} (hok : r.ordinaryProperties id methods = .ok properties)
    (hne : methods.filter (·.Accesses .set name) ≠ []) :
    ∃ choice type, properties.setters.find? name = some ⟨choice.accessor, type⟩ ∧
      r.hierarchy.resolvedParam id choice.method = .ok type ∧
        r.hierarchy.ChoosesSetter (properties.getters.methodType? name)
          (methods.filter (·.Accesses .set name)) choice := by
  obtain ⟨getters, hgetters, hok⟩ := Except.bind_eq_ok_iff.1 hok
  obtain ⟨setters, hsetters, hok⟩ := Except.bind_eq_ok_iff.1 hok
  obtain ⟨fields, -, hok⟩ := Except.bind_eq_ok_iff.1 hok
  have hfields : properties.getters.Supplements getters ∧
      properties.setters.Supplements setters := by
    refine Except.foldlM_eq_ok_induction
      (P := fun p => p.getters.Supplements getters ∧ p.setters.Supplements setters) hok
      ⟨.refl getters, .refl setters⟩ fun f _ p p' hp hadd => ?_
    have hfield := Hierarchy.supplements_addField hadd
    exact ⟨hfield.1.trans hp.1, hfield.2.trans hp.2⟩
  obtain ⟨choice, type, hfind, htype, hchooses⟩ := hh.exists_find?_settersOf hsetters hne
  refine ⟨choice, type, hfields.2.kept hfind, htype, ?_⟩
  rw [hfields.1.methodType?_eq, ← Hierarchy.wantedClass_eq_methodType? hgetters]
  exact hchooses

/-- What a property is written through, given its setters and the class that one of them should
take. -/
structure Hierarchy.SetterRule (h : Hierarchy) (wanted : Option ClassRef) (setters : List Method)
    (a : Accessor) : Prop where
  /-- Where setters take exactly the wanted class, it is the first one of these. -/
  exact : ∀ k, setters.find? (fun s => wanted = some s.firstParamClass) = some k → a = .method k
  /-- Otherwise, if it is a method, this is a setter that takes the narrowest class. -/
  narrowest : (∀ s ∈ setters, wanted ≠ some s.firstParamClass) → ∀ k, a = .method k →
    k ∈ setters ∧ ∀ t ∈ setters, h.isAssignable t.firstParamClass k.firstParamClass = true
  /-- Otherwise it is ambiguous and stands for a setter whose class is unrelated to that of a later
  one. -/
  ambiguous : (∀ s ∈ setters, wanted ≠ some s.firstParamClass) → (∀ k, a ≠ .method k) →
    ∃ k cause, a = .ambiguous k cause ∧
      ∃ t, [k, t].Sublist setters ∧ h.Unrelated k.firstParamClass t.firstParamClass

/-- What the choice among some setters comes to is what the property should be written through. -/
theorem Hierarchy.ChoosesSetter.setterRule {wanted : Option ClassRef} {setters : List Method}
    {choice : Hierarchy.SetterChoice} (hchoice : h.ChoosesSetter wanted setters choice) :
    h.SetterRule wanted setters choice.accessor := by
  cases hchoice with
  | @exact k hfind =>
    obtain ⟨hk, hexact⟩ := Hierarchy.exact_of_find? hfind
    refine ⟨fun k' hk' => ?_, fun hnone => absurd hexact (hnone k hk),
      fun hnone => absurd hexact (hnone k hk)⟩
    obtain rfl : k = k' := Option.some.inj (hfind.symm.trans hk')
    rfl
  | @narrowest k hnone hsettles =>
    have hfind := Hierarchy.find?_exact_eq_none_iff.2 hnone
    refine ⟨fun k' hk' => ?_, fun _ k' hk' => ?_, fun _ hnot => absurd rfl (hnot k)⟩
    · cases hfind.symm.trans hk'
    · cases hk'
      exact hsettles.narrowest
  | @undecided k cause hnone hundecided =>
    have hfind := Hierarchy.find?_exact_eq_none_iff.2 hnone
    refine ⟨fun k' hk' => ?_, fun _ k' hk' => ?_, fun _ _ => ⟨k, cause, rfl, ?_⟩⟩
    · cases hfind.symm.trans hk'
    · cases hk'
    · exact hundecided.unrelated

namespace Metadata

variable {r : Registry} {id : ClassId} {c : ClassInfo}

/-- In the metadata of a registered class that is no record, every property with setters among the
collected methods can be written: through the first setter that takes exactly what the definite
method returns that the property is read through, or else, if through a method, then through one
that takes the narrowest class, or else two of the setters take unrelated classes. -/
theorem exists_ofClass_setterRule (h : r.Reachable) (hc : r.class? id = some c)
    (hrecord : c.isRecord = false) :
    ∃ m methods, ofClass r id = .ok m ∧ r.collectedMethods id = .ok methods ∧
      ∀ name, methods.filter (·.Accesses .set name) ≠ [] →
        ∃ a, m.accessor .set name = .ok a ∧
          r.hierarchy.SetterRule (m.getters.methodType? name)
            (methods.filter (·.Accesses .set name)) a := by
  obtain ⟨m, hm⟩ := exists_ofClass_eq_ok h.wellFormed hc
  obtain ⟨methods, hmethods, hproperties⟩ := exists_ordinaryProperties_of_ofClass hc hrecord hm
  refine ⟨m, methods, hm, hmethods, fun name hne => ?_⟩
  obtain ⟨choice, type, hfind, -, hchooses⟩ :=
    Registry.exists_find?_setters h.grounded hproperties hne
  have ha : m.accessor .set name = .ok choice.accessor :=
    accessor_eq_ok_iff.2 (PropertyTable.find?_eq_some_iff.1 hfind).1
  exact ⟨choice.accessor, ha, hchooses.setterRule⟩

/-- The draft of a counter that has a width without a getter as well, and two setters of it. -/
def gaugeDraft : ClassDraft :=
  (counterDraft.withMethod (setterDraft "setWidth" ⟨2⟩)).withMethod (setterDraft "setWidth" ⟨4⟩)

/-- The count is written through the setter that takes what its getter returns, although the two
before it do not compare, the width through the one of the narrowest class, and the label through
none. -/
theorem gaugeDraft_setterRule :
    let r := (Registry.definitionCalls [gaugeDraft]).foldl Registry.after .initial
    ∃ m methods, ofClass r ⟨7⟩ = .ok m ∧ r.collectedMethods ⟨7⟩ = .ok methods ∧
      (∃ k, m.accessor .set "count" = .ok (.method k) ∧ k.firstParamClass = .declared ⟨2⟩) ∧
      (∃ k, m.accessor .set "width" = .ok (.method k) ∧
        ∀ t ∈ methods.filter (·.Accesses .set "width"),
          r.hierarchy.isAssignable t.firstParamClass k.firstParamClass = true) ∧
      ∃ k t cause, m.accessor .set "label" = .ok (.ambiguous k cause) ∧
        [k, t].Sublist (methods.filter (·.Accesses .set "label")) ∧
          r.hierarchy.Unrelated k.firstParamClass t.firstParamClass := by
  intro r
  have hreachable : r.Reachable := Registry.reachable_definitionCalls (by decide)
  have hordinary : (r.class? ⟨7⟩).map (·.isRecord) = some false := by decide +kernel
  obtain ⟨c, hc, hrecord⟩ := Option.map_eq_some_iff.1 hordinary
  obtain ⟨m, methods, hm, hmethods, hrule⟩ := exists_ofClass_setterRule hreachable hc hrecord
  have hclasses : (r.collectedMethods ⟨7⟩).toOption.map (fun methods =>
      ["count", "width", "label"].map fun name =>
        (methods.filter (·.Accesses .set name)).map (·.firstParamClass)) =
      some [[.declared ⟨1⟩, .declared ⟨3⟩, .declared ⟨2⟩], [.declared ⟨2⟩, .declared ⟨4⟩],
        [.declared ⟨1⟩, .declared ⟨3⟩]] := by decide +kernel
  have hshown : (ofClass r ⟨7⟩).toOption.map (fun m =>
      (["count", "width", "label"].map m.getters.methodType?,
        ["width", "label"].map fun name => (m.accessor .set name).toOption.map (·.isAmbiguous))) =
      some ([some (.declared ⟨2⟩), none, none], [some false, some true]) := by decide +kernel
  rw [hmethods] at hclasses
  rw [hm] at hshown
  simp only [Except.toOption, Option.map_some, Option.some.injEq, List.map_cons, List.map_nil,
    List.cons.injEq, and_true, Prod.mk.injEq] at hclasses hshown
  obtain ⟨hcount, hwidth, hlabel⟩ := hclasses
  obtain ⟨⟨hcountType, hwidthType, hlabelType⟩, hwidthKind, hlabelKind⟩ := hshown
  have hnone : ∀ s : Method, none ≠ some s.firstParamClass := fun s =>
    (Option.some_ne_none s.firstParamClass).symm
  have hne : ∀ {name} {classes : List ClassRef}, classes ≠ [] →
      (methods.filter (·.Accesses .set name)).map (·.firstParamClass) = classes →
        methods.filter (·.Accesses .set name) ≠ [] := by
    rintro name classes hclasses rfl hnil
    exact hclasses (by rw [hnil]; rfl)
  refine ⟨m, methods, hm, hmethods, ?count, ?width, ?label⟩
  case count =>
    obtain ⟨a, ha, hsetter⟩ := hrule "count" (hne (List.cons_ne_nil _ _) hcount)
    rw [hcountType] at hsetter
    have hexact : .declared ⟨2⟩ ∈
        (methods.filter (·.Accesses .set "count")).map (·.firstParamClass) := by simp [hcount]
    obtain ⟨s, hs, hclass⟩ := List.mem_map.1 hexact
    obtain ⟨k, hk⟩ := Hierarchy.exists_find?_exact hs (congrArg some hclass.symm)
    obtain rfl := hsetter.exact k hk
    exact ⟨k, ha, (Option.some.inj (Hierarchy.exact_of_find? hk).2).symm⟩
  case width =>
    obtain ⟨a, ha, hsetter⟩ := hrule "width" (hne (List.cons_ne_nil _ _) hwidth)
    rw [hwidthType] at hsetter
    have hmethod : ∃ k, a = .method k := by
      by_contra hnot
      obtain ⟨k, cause, rfl, -⟩ := hsetter.ambiguous (fun s _ => hnone s) (not_exists.1 hnot)
      rw [ha] at hwidthKind
      cases hwidthKind
    obtain ⟨k, rfl⟩ := hmethod
    exact ⟨k, ha, (hsetter.narrowest (fun s _ => hnone s) k rfl).2⟩
  case label =>
    obtain ⟨a, ha, hsetter⟩ := hrule "label" (hne (List.cons_ne_nil _ _) hlabel)
    rw [hlabelType] at hsetter
    have hnot : ∀ k, a ≠ .method k := by
      rintro k rfl
      rw [ha] at hlabelKind
      cases hlabelKind
    obtain ⟨k, cause, rfl, t, hpair, hunrelated⟩ := hsetter.ambiguous (fun s _ => hnone s) hnot
    exact ⟨k, t, cause, ha, hpair, hunrelated⟩

end Metadata

end Introspection
