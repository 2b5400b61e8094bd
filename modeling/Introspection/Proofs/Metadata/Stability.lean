import Introspection.Proofs.Cache.Transparency
import Introspection.Proofs.Hierarchy.Agreement
import Introspection.Proofs.Metadata.SetterTypes
import Introspection.Proofs.Registry.Definition

/-!
# Metadata and later registries

The metadata of a class does not change when further classes are registered, provided that the
runtime classes which its collected methods return and take are made of registered ones
(`Metadata.ofClass_foldl_after`).

The build asks for much: which methods are collected, which of two classes is narrower, what a class
is called, what a type means as seen from the class.  It asks it about the class, what it inherits
from, and the classes that its methods return and take.  On these the hierarchies of both registries
agree (`Extends.agreeOn`), so all answers are the same, and every step of the build with them.
-/

namespace Introspection

variable {P : ClassId → Prop} {methods : List Method} {source : ClassId}

/-- The runtime classes that a method returns and takes are made of some classes. -/
def Method.Within (P : ClassId → Prop) (m : Method) : Prop :=
  m.returnClass.Within P ∧ ∀ ref ∈ m.paramClasses, ref.Within P

/-- What writes a property takes a runtime class that is made of these classes. -/
theorem Method.Within.firstParamClass {m : Method} (hm : m.Within P) {property : String}
    (haccesses : m.Accesses .set property) : m.firstParamClass.Within P := by
  have hlength : m.paramClasses.length = 1 := by
    rw [Method.paramClasses, List.length_map]
    exact (Method.accesses_set_iff.1 haccesses).1
  obtain ⟨ref, href⟩ := List.length_eq_one_iff.1 hlength
  have hmem : m.firstParamClass ∈ m.paramClasses := by simp [Method.firstParamClass, href]
  exact hm.2 m.firstParamClass hmem

namespace Hierarchy

variable {h h' : Hierarchy}

/-! ### Choices -/

/-- Getters that return known classes are chosen alike. -/
theorem AgreeOn.pickGetter_eq (hagree : h.AgreeOn h' P) {winner : Method} {rest : List Method}
    (hms : ∀ m ∈ winner :: rest, m.returnClass.Within P) :
    h'.pickGetter winner rest = h.pickGetter winner rest := by
  induction rest generalizing winner with
  | nil => rfl
  | cons candidate rest ih =>
    have hwinner : winner.returnClass.Within P := hms winner List.mem_cons_self
    have hcandidate : candidate.returnClass.Within P :=
      hms candidate (List.mem_cons_of_mem winner List.mem_cons_self)
    have hrest : ∀ m ∈ rest, m.returnClass.Within P := fun m hm =>
      hms m (List.mem_cons_of_mem winner (List.mem_cons_of_mem candidate hm))
    have hkept : h'.pickGetter winner rest = h.pickGetter winner rest :=
      ih (List.forall_mem_cons.2 ⟨hwinner, hrest⟩)
    have hnext : h'.pickGetter candidate rest = h.pickGetter candidate rest :=
      ih (List.forall_mem_cons.2 ⟨hcandidate, hrest⟩)
    rw [pickGetter, pickGetter, hagree.isAssignable_eq hwinner, hagree.isAssignable_eq hcandidate]
    split_ifs
    · exact hnext
    · exact hkept
    · rfl
    · exact hkept
    · exact hnext
    · rfl

/-- A setter of a known class is compared alike with one of a known class. -/
theorem AgreeOn.narrower_eq (hagree : h.AgreeOn h' P) (property : String)
    {choice : Option SetterChoice} {s : Method} (hs : P s.declaring ∧ s.firstParamClass.Within P)
    (hchoice : ∀ current, choice = some current → current.method.firstParamClass.Within P) :
    h'.narrower property choice s = h.narrower property choice s := by
  have howner : (ClassRef.declared s.declaring).Within P := by
    rintro id ⟨⟩
    exact hs.1
  unfold narrower
  split
  · rfl
  · rfl
  · next current =>
    have hcurrent : current.firstParamClass.Within P := hchoice _ rfl
    rw [hagree.isAssignable_eq hs.2, hagree.isAssignable_eq hcurrent, hagree.refName_eq howner,
      hagree.refName_eq hcurrent, hagree.refName_eq hs.2]

/-- Of setters that take known classes the same ones are recorded. -/
theorem AgreeOn.recordedSetters_eq (hagree : h.AgreeOn h' P) (property : String)
    (wanted : Option ClassRef) {choice : Option SetterChoice} {setters : List Method}
    (hsetters : ∀ s ∈ setters, P s.declaring ∧ s.firstParamClass.Within P)
    (hchoice : ∀ current, choice = some current → current.method.firstParamClass.Within P) :
    h'.recordedSetters property wanted choice setters =
      h.recordedSetters property wanted choice setters := by
  induction setters generalizing choice with
  | nil => rfl
  | cons s rest ih =>
    have hs := hsetters s List.mem_cons_self
    have hrest : ∀ t ∈ rest, P t.declaring ∧ t.firstParamClass.Within P := fun t ht =>
      hsetters t (List.mem_cons_of_mem s ht)
    rw [recordedSetters, recordedSetters, hagree.narrower_eq property hs hchoice]
    split
    · rfl
    · refine ih hrest fun current hcurrent => ?_
      obtain rfl : h.narrower property choice s = current := Option.some.inj hcurrent
      rcases h.narrower_method property choice s with hnew | ⟨old, hold, hmethod⟩
      · rw [hnew]
        exact hs.2
      · rw [hmethod]
        exact hchoice old hold

/-! ### Properties -/

/-- A type has the same class as seen from a class on which both tables agree. -/
theorem AgreeOn.resolvedClass_eq (hagree : h.AgreeOn h' P) (ranking : h.Ranking)
    (ranking' : h'.Ranking) (hsource : P source) :
    h'.resolvedClass source = h.resolvedClass source := by
  funext ty declaring
  rw [resolvedClass, resolvedClass, hagree.resolve_eq ranking ranking' rfl hsource]

section

variable (hclass : h'.resolvedClass source = h.resolvedClass source)
include hclass

theorem readBy_eq : h'.readBy source = h.readBy source := by
  funext m a
  rw [readBy, readBy, hclass]

theorem writtenBy_eq : h'.writtenBy source = h.writtenBy source := by
  funext m a
  rw [writtenBy, writtenBy, resolvedParam_eq, resolvedParam_eq, hclass]

/-- The same properties are made of the methods of a record. -/
theorem componentsOf_eq (methods : List Method) :
    h'.componentsOf source methods = h.componentsOf source methods := by
  rw [componentsOf, componentsOf, readBy_eq hclass]

/-- The same properties are added for a field. -/
theorem addField_eq : h'.addField source = h.addField source := by
  funext properties f
  rw [addField, addField, hclass]

/-- The same property is made of getters that return known classes. -/
theorem AgreeOn.getterOf_eq (hagree : h.AgreeOn h' P) (property : String) {ms : List Method}
    (hms : ∀ m ∈ ms, P m.declaring ∧ m.returnClass.Within P) :
    h'.getterOf source (property, ms) = h.getterOf source (property, ms) := by
  match ms with
  | [] => rfl
  | first :: rest =>
    have howner : (ClassRef.declared (h.pickGetter first rest).1.declaring).Within P := by
      rintro id ⟨⟩
      exact (hms _ (h.pickGetter_mem first rest)).1
    simp only [getterOf, hagree.pickGetter_eq fun m hm => (hms m hm).2, hagree.refName_eq howner,
      readBy_eq hclass]

/-- The same properties are recorded for setters that take known classes. -/
theorem AgreeOn.setterOf_eq (hagree : h.AgreeOn h' P) (getters : PropertyTable) (property : String)
    {ms : List Method} (hms : ∀ m ∈ ms, P m.declaring ∧ m.firstParamClass.Within P) :
    h'.setterOf source getters (property, ms) = h.setterOf source getters (property, ms) := by
  have hrecorded : h'.recordedSetters property (wantedClass getters property) none ms =
      h.recordedSetters property (wantedClass getters property) none ms :=
    hagree.recordedSetters_eq property _ hms fun current hcurrent => nomatch hcurrent
  simp only [setterOf, hrecorded, writtenBy_eq hclass]

/-- The same table is made of getters that return known classes. -/
theorem AgreeOn.gettersOf_eq (hagree : h.AgreeOn h' P)
    (hms : ∀ m ∈ methods, P m.declaring ∧ m.Within P) :
    h'.gettersOf source methods = h.gettersOf source methods := by
  obtain ⟨groups, hgroups, hmem⟩ := Registry.exists_candidates_eq_ok .get methods
  have hentries : groups.entries.mapM (h'.getterOf source) =
      groups.entries.mapM (h.getterOf source) := by
    refine Except.mapM_congr fun ⟨property, ms⟩ hgroup => ?_
    obtain ⟨rfl, -⟩ := (hmem property ms).1 hgroup
    refine hagree.getterOf_eq hclass property fun m hm => ?_
    have hm' := hms m (List.mem_of_mem_filter hm)
    exact ⟨hm'.1, hm'.2.1⟩
  have hgetters : Registry.candidates Method.isGetter methods = .ok groups := hgroups
  rw [gettersOf, gettersOf, hgetters]
  exact congrArg (· >>= fun entries => pure (PropertyTable.ofList entries.flatten)) hentries

/-- The same table is made of setters that take known classes. -/
theorem AgreeOn.settersOf_eq (hagree : h.AgreeOn h' P) (getters : PropertyTable)
    (hms : ∀ m ∈ methods, P m.declaring ∧ m.Within P) :
    h'.settersOf source getters methods = h.settersOf source getters methods := by
  obtain ⟨groups, hgroups, hmem⟩ := Registry.exists_candidates_eq_ok .set methods
  have hentries : groups.entries.mapM (h'.setterOf source getters) =
      groups.entries.mapM (h.setterOf source getters) := by
    refine Except.mapM_congr fun ⟨property, ms⟩ hgroup => ?_
    obtain ⟨rfl, -⟩ := (hmem property ms).1 hgroup
    refine hagree.setterOf_eq hclass getters property fun m hm => ?_
    obtain ⟨hmem, haccesses⟩ := List.mem_filter.1 hm
    have hm' := hms m hmem
    exact ⟨hm'.1, hm'.2.firstParamClass (of_decide_eq_true haccesses)⟩
  have hsetters : Registry.candidates Method.isSetter methods = .ok groups := hgroups
  rw [settersOf, settersOf, hsetters]
  exact congrArg (· >>= fun entries => pure (PropertyTable.ofList entries.flatten)) hentries

end

end Hierarchy

/-! ### Later registries -/

namespace Registry

variable {r r' : Registry} {id : ClassId} {c : ClassInfo}

/-- The class that occurs in a runtime class, if there is one, is registered. -/
def Knows (r : Registry) (ref : ClassRef) : Prop :=
  ref.Within fun id => ∃ c, r.class? id = some c

/-- Whether a registry knows a runtime class. -/
instance (r : Registry) : DecidablePred r.Knows := fun ref =>
  decidable_of_iff (ref.element?.all (fun id => (r.class? id).isSome) = true) <| by
    simp only [Knows, ClassRef.Within, Option.all_eq_true, Option.isSome_iff_exists]

theorem Extends.classInfo_eq (hextends : r.Extends r') (hc : r.class? id = some c) :
    r'.classInfo id = r.classInfo id := by
  rw [classInfo, classInfo, hc, hextends id c hc]

/-- A registered class contributes the same methods. -/
theorem Extends.contributedMethods_eq (hextends : r.Extends r') (hr : r.WellFormed)
    (hc : r.class? id = some c) : r'.contributedMethods c = r.contributedMethods c := by
  have hoffered : (c.interfaces.filterMap Ty.rawClass?).flatMap r'.interfaceMethods =
      (c.interfaces.filterMap Ty.rawClass?).flatMap r.interfaceMethods := by
    refine List.flatMap_congr fun interface hinterface => ?_
    have hedge : r.hierarchy.Edge .interfaces id interface :=
      (mem_rawInterfaces_iff hc).1 hinterface
    obtain ⟨c', hc'⟩ := hr.exists_class_of_inherits hc
      (.single (Hierarchy.edge_parents_of_edge_interfaces hedge))
    exact hextends.interfaceMethods_eq hr hc'
  rw [contributedMethods, contributedMethods, hoffered]

/-- For a registered class the same methods are collected. -/
theorem Extends.collectedMethods_eq_ok (hextends : r.Extends r') (hr : r.WellFormed)
    (hc : r.class? id = some c) (hok : r.collectedMethods id = .ok methods) :
    r'.collectedMethods id = .ok methods := by
  obtain ⟨chain, hchain, rfl⟩ := collectedMethods_eq_ok_iff.1 hok
  have hregistered : ∀ owner ∈ (r.superclassChain id).takeWhile (· ≠ .object),
      ∃ c, r.class? owner = some c := fun owner howner =>
    hr.exists_class_of_mem_superclassChain hc (List.takeWhile_subset _ howner)
  have hchain' : ((r'.superclassChain id).takeWhile (· ≠ .object)).mapM r'.classInfo =
      .ok chain := by
    rw [hextends.superclassChain_eq hr hc, ← hchain]
    refine Except.mapM_congr fun owner howner => ?_
    obtain ⟨c', hc'⟩ := hregistered owner howner
    exact hextends.classInfo_eq hc'
  have hcontributed : chain.flatMap r'.contributedMethods = chain.flatMap r.contributedMethods := by
    refine List.flatMap_congr fun c' hc' => ?_
    obtain ⟨owner, -, hc'⟩ := (mem_mapM_classInfo_iff hchain).1 hc'
    exact hextends.contributedMethods_eq hr hc'
  exact collectedMethods_eq_ok_iff.2 ⟨chain, hchain', by rw [hcontributed]⟩

/-- A registered class has the same fields in its superclass chain. -/
theorem Extends.chainFields_eq (hextends : r.Extends r') (hr : r.WellFormed)
    (hc : r.class? id = some c) : r'.chainFields id = r.chainFields id := by
  have hchain : (r.superclassChain id).mapM r'.classInfo =
      (r.superclassChain id).mapM r.classInfo := by
    refine Except.mapM_congr fun owner howner => ?_
    obtain ⟨c', hc'⟩ := hr.exists_class_of_mem_superclassChain hc howner
    exact hextends.classInfo_eq hc'
  rw [chainFields, chainFields, hextends.superclassChain_eq hr hc, hchain]

/-- A type has the same class as seen from a registered class. -/
theorem Extends.resolvedClass_eq (hextends : r.Extends r') (hr : r.WellFormed) (hr' : r'.WellFormed)
    (hc : r.class? id = some c) : r'.hierarchy.resolvedClass id = r.hierarchy.resolvedClass id := by
  obtain ⟨ranking⟩ := hr.exists_ranking
  obtain ⟨ranking'⟩ := hr'.exists_ranking
  exact (hextends.agreeOn hr).resolvedClass_eq ranking ranking' ⟨c, hc⟩

/-- A registered class has the same properties, if its methods return and take known classes. -/
theorem Extends.ordinaryProperties_eq (hextends : r.Extends r') (hr : r.WellFormed)
    (hr' : r'.WellFormed) (hc : r.class? id = some c)
    (hms : ∀ m ∈ methods, (∃ c, r.class? m.declaring = some c) ∧
      m.Within fun id => ∃ c, r.class? id = some c) :
    r'.ordinaryProperties id methods = r.ordinaryProperties id methods := by
  have hagree := hextends.agreeOn hr
  have hclass := hextends.resolvedClass_eq hr hr' hc
  simp only [ordinaryProperties, hagree.gettersOf_eq hclass hms,
    fun getters => hagree.settersOf_eq hclass getters hms, hextends.chainFields_eq hr hc,
    Hierarchy.addField_eq hclass]

/-- A registered record has the same properties. -/
theorem Extends.recordProperties_eq (hextends : r.Extends r') (hr : r.WellFormed)
    (hr' : r'.WellFormed) (hc : r.class? id = some c) (methods : List Method) :
    r'.recordProperties id methods = r.recordProperties id methods := by
  rw [recordProperties, recordProperties,
    Hierarchy.componentsOf_eq (hextends.resolvedClass_eq hr hr' hc)]

end Registry

namespace Metadata

variable {r : Registry} {id : ClassId} {c : ClassInfo}

/-- However a reachable registry grows, the metadata of a class that is registered in it stays the
same down to the texts of ambiguities, the resolved classes and the spellings of names, if all
classes that occur in what its collected methods return and take are registered. -/
theorem ofClass_foldl_after (h : r.Reachable) (hc : r.class? id = some c)
    (hmethods : r.collectedMethods id = .ok methods)
    (hknown : ∀ m ∈ methods, r.Knows m.returnClass ∧ ∀ ref ∈ m.paramClasses, r.Knows ref)
    {calls : List RegistryCall} (hcalls : ∀ call ∈ calls, call.Described) :
    ∃ m m', ofClass r id = .ok m ∧ ofClass (calls.foldl Registry.after r) id = .ok m' ∧
      m'.same m = true ∧ (∀ name, m'.canonicalName? name = m.canonicalName? name) ∧ m' = m := by
  have hr : r.WellFormed := h.wellFormed
  have hr' : (calls.foldl Registry.after r).WellFormed := (h.foldl hcalls).wellFormed
  have hextends : r.Extends (calls.foldl Registry.after r) := r.extends_foldl_after calls
  have hms : ∀ m ∈ methods, (∃ c, r.class? m.declaring = some c) ∧
      m.Within fun id => ∃ c, r.class? id = some c := by
    intro m hm
    obtain ⟨owner, c', hc', hm'⟩ := Registry.exists_declares_of_mem_collectedMethods hmethods hm
    have howner : m.declaring = owner := h.declaring_of_mem_methods hc' hm'
    exact ⟨⟨c', by rw [howner, hc']⟩, hknown m hm⟩
  have hmethods' : (calls.foldl Registry.after r).collectedMethods id = .ok methods :=
    hextends.collectedMethods_eq_ok hr hc hmethods
  have hsame : ofClass (calls.foldl Registry.after r) id = ofClass r id := by
    rw [ofClass_eq hc hmethods, ofClass_eq (hextends id c hc) hmethods',
      hextends.ordinaryProperties_eq hr hr' hc hms, hextends.recordProperties_eq hr hr' hc methods]
  obtain ⟨m, hm⟩ := exists_ofClass_eq_ok hr hc
  exact ⟨m, m, hm, hsame.trans hm, m.same_self, fun _ => rfl, rfl⟩

/-- The draft of a class that has a property of strings from the generic class that it extends, and
one of its own that strings and integers can be written to. -/
def labelDraft : ClassDraft :=
  (((ClassDraft.ofKind ⟨8⟩ "Label" .ordinary).withSuperclass
    (.parameterized ⟨7⟩ [.ofClass ⟨1⟩])).withMethod (setterDraft "setText" ⟨1⟩)).withMethod
      (setterDraft "setText" ⟨3⟩)

/-- Calls that define an interface, and two that fail, since the place of the class is taken and
another one is not there. -/
def laterCalls : List RegistryCall :=
  [.reserve "Later" .interface, .register (.ofKind ⟨9⟩ "Later" .interface), .register labelDraft,
    .register (.ofKind ⟨11⟩ "Lost" .ordinary)]

/-- After these calls the metadata of the class are the same, with the resolved class of the one
property and the ambiguity of the other. -/
theorem laterCalls_ofClass :
    let r := (Registry.definitionCalls [baseDraft, labelDraft]).foldl Registry.after .initial
    let r' := laterCalls.foldl Registry.after r
    r.find? "Later" = none ∧ r'.find? "Later" = some ⟨9⟩ ∧
      ∃ m m', ofClass r ⟨8⟩ = .ok m ∧ ofClass r' ⟨8⟩ = .ok m' ∧ m'.same m = true ∧
        m'.valueType .get "value" = .ok (.declared ⟨1⟩) ∧
        (m'.accessor .set "text").toOption.map (·.isAmbiguous) = some true := by
  intro r r'
  have hreachable : r.Reachable := Registry.reachable_definitionCalls (by decide)
  have hcalls : ∀ call ∈ laterCalls, call.Described := by decide
  have hregistered : (r.class? ⟨8⟩).isSome = true := by decide +kernel
  obtain ⟨c, hc⟩ := Option.isSome_iff_exists.1 hregistered
  obtain ⟨methods, hmethods⟩ := hreachable.wellFormed.exists_collectedMethods_eq_ok hc
  have hchecked : (r.collectedMethods ⟨8⟩).toOption.map (fun methods => decide
      (∀ m ∈ methods, r.Knows m.returnClass ∧ ∀ ref ∈ m.paramClasses, r.Knows ref)) =
      some true := by decide +kernel
  rw [hmethods, Except.toOption, Option.map_some, Option.some.injEq, decide_eq_true_eq] at hchecked
  obtain ⟨m, m', hm, hm', hsame, -, rfl⟩ :=
    ofClass_foldl_after hreachable hc hmethods hchecked hcalls
  have hshown : (ofClass r ⟨8⟩).toOption.map (fun m =>
      ((m.valueType .get "value").toOption, (m.accessor .set "text").toOption.map
        (·.isAmbiguous))) = some (some (.declared ⟨1⟩), some true) := by decide +kernel
  rw [hm, Except.toOption, Option.map_some, Option.some.injEq, Prod.mk.injEq] at hshown
  exact ⟨by decide +kernel, by decide +kernel, m', m', hm, hm', hsame,
    Except.toOption_eq_some_iff.1 hshown.1, hshown.2⟩

end Metadata

end Introspection
