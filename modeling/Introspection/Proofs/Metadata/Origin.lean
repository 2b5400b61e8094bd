import Introspection.Proofs.Metadata.Members
import Introspection.Proofs.Registry.Interfaces
import Introspection.Proofs.Registry.SuperclassChain

/-!
# The members of a class

The metadata of a class is made of the methods that are collected for it and of the fields of its
superclass chain.  `Registry.Collects` and `Registry.DeclaresField` are the declarative side of
these lists.  Of the methods that are collected for a registered class each signature occurs in the
list (`mem_collectedMethods`), namely the first method of that signature that the build comes upon
(`mem_distinctFrom_iff`), and of the fields each field (`mem_chainFields_iff`).

What has been built shows these members (`Metadata.exists_origin`), and in a well-formed registry
metadata can be built for every registered class (`Metadata.exists_ofClass_eq_ok`).
-/

namespace Introspection

namespace Registry

variable {r : Registry} {id owner : ClassId} {c : ClassInfo} {m : Method}
  {methods ms : List Method} {seen : List Signature} {fields : List Field}

/-! ### Methods -/

/-- The method is no bridge, and it is declared by a class of the superclass chain below `Object`,
or public and declared by an interface that is reached from such a class. -/
def Collects (r : Registry) (id : ClassId) (m : Method) : Prop :=
  m.modifiers.isBridge = false ∧ ∃ owner, r.hierarchy.Reaches .superclass id owner ∧
    owner ≠ .object ∧ (r.Declares owner m ∨ r.Offers owner m)

/-- Dropping repeated signatures keeps the first method of each signature that has not been seen. -/
theorem mem_distinctFrom_iff : m ∈ distinctFrom seen ms ↔
    m.signature ∉ seen ∧ ms.find? (·.signature = m.signature) = some m := by
  induction ms generalizing seen with
  | nil => simp [distinctFrom]
  | cons first rest ih =>
    unfold distinctFrom
    by_cases heq : first.signature = m.signature
    · -- the first one decides about its signature
      rw [List.find?_cons_of_pos (by simpa using heq)]
      split
      · next hseen =>
        rw [ih]
        exact ⟨fun hm => absurd (heq ▸ hseen) hm.1, fun hm => absurd (heq ▸ hseen) hm.1⟩
      · next hnew =>
        rw [List.mem_cons, ih, Option.some.injEq]
        constructor
        · rintro (rfl | hm)
          · exact ⟨hnew, rfl⟩
          · exact absurd (heq ▸ List.mem_cons_self) hm.1
        · rintro ⟨-, rfl⟩
          exact .inl rfl
    · rw [List.find?_cons_of_neg (by simpa using heq)]
      split
      · exact ih
      · have hne : m ≠ first := fun hm => heq (congrArg Method.signature hm).symm
        rw [List.mem_cons, ih, List.mem_cons, not_or]
        simp [hne, Ne.symm heq]

/-- What is asked about signatures alone, and not of those that have been seen, is first answered by
the same method if repeated signatures are dropped. -/
theorem find?_distinctFrom {p : Method → Bool}
    (hsame : ∀ m m' : Method, m.signature = m'.signature → p m = p m')
    (hseen : ∀ m, m.signature ∈ seen → p m = false) :
    (distinctFrom seen ms).find? p = ms.find? p := by
  induction ms generalizing seen with
  | nil => rfl
  | cons first rest ih =>
    unfold distinctFrom
    cases hfirst : p first with
    | true =>
      have hnew : first.signature ∉ seen := fun hmem => by simp [hseen first hmem] at hfirst
      rw [if_neg hnew, List.find?_cons_of_pos hfirst, List.find?_cons_of_pos hfirst]
    | false =>
      have hnot : ¬ p first = true := by simp [hfirst]
      rw [List.find?_cons_of_neg hnot]
      split
      · exact ih hseen
      · rw [List.find?_cons_of_neg hnot]
        refine ih fun m hm => ?_
        rcases List.mem_cons.1 hm with heq | hm
        · rw [hsame m first heq, hfirst]
        · exact hseen m hm

/-- No two methods that are kept have the same signature. -/
theorem nodup_map_signature_distinctFrom :
    ((distinctFrom seen ms).map Method.signature).Nodup := by
  induction ms generalizing seen with
  | nil => exact .nil
  | cons first rest ih =>
    unfold distinctFrom
    split
    · exact ih
    · refine List.nodup_cons.2 ⟨fun hfirst => ?_, ih⟩
      obtain ⟨m, hm, heq⟩ := List.mem_map.1 hfirst
      exact (mem_distinctFrom_iff.1 hm).1 (heq ▸ List.mem_cons_self)

/-- The methods that are kept stay in order. -/
theorem distinctFrom_sublist : (distinctFrom seen ms).Sublist ms := by
  induction ms generalizing seen with
  | nil => exact .slnil
  | cons first rest ih =>
    unfold distinctFrom
    split
    · exact ih.cons first
    · exact ih.cons_cons first

/-- Dropping repeated signatures brings in no method. -/
theorem mem_of_mem_distinctFrom (hm : m ∈ distinctFrom seen ms) : m ∈ ms :=
  distinctFrom_sublist.subset hm

/-- Dropping repeated signatures keeps a method of each signature. -/
theorem exists_mem_distinctFrom (seen : List Signature) (hm : m ∈ ms) :
    m.signature ∈ seen ∨ ∃ m' ∈ distinctFrom seen ms, m'.signature = m.signature := by
  refine or_iff_not_imp_left.2 fun hnew => ?_
  -- the first method of the signature is kept
  obtain ⟨m', hfirst⟩ : ∃ m', ms.find? (·.signature = m.signature) = some m' :=
    Option.isSome_iff_exists.1 (List.find?_isSome.2 ⟨m, hm, by simp⟩)
  have hsignature : m'.signature = m.signature := by simpa using List.find?_some hfirst
  have hkept : m' ∈ distinctFrom seen ms := by
    rw [mem_distinctFrom_iff, hsignature]
    exact ⟨hnew, hfirst⟩
  exact ⟨m', hkept, hsignature⟩

/-- The methods that are collected are those without bridges that the classes before `Object`
contribute, one of each signature. -/
theorem collectedMethods_eq_ok_iff : r.collectedMethods id = .ok methods ↔
    ∃ chain, ((r.superclassChain id).takeWhile (· ≠ .object)).mapM r.classInfo = .ok chain ∧
      methods =
        distinctFrom [] ((chain.flatMap r.contributedMethods).filter (!·.modifiers.isBridge)) := by
  unfold collectedMethods
  rw [Except.bind_eq_ok_iff]
  exact exists_congr fun chain => and_congr_right fun _ =>
    ⟨fun hok => (Except.ok.inj hok).symm, fun heq => congrArg Except.ok heq.symm⟩

/-- No two collected methods have the same signature. -/
theorem nodup_map_signature_of_collectedMethods
    (hok : r.collectedMethods id = .ok methods) : (methods.map Method.signature).Nodup := by
  obtain ⟨chain, -, rfl⟩ := collectedMethods_eq_ok_iff.1 hok
  exact nodup_map_signature_distinctFrom

/-- What a registered class contributes it declares itself, or its interfaces offer it. -/
theorem mem_contributedMethods_iff (hc : r.class? owner = some c) :
    m ∈ r.contributedMethods c ↔ r.Declares owner m ∨ r.Offers owner m := by
  have hdeclares : r.Declares owner m ↔ m ∈ c.methods := by simp [Declares, hc]
  rw [hdeclares, ← mem_offered_iff hc, ← List.mem_append]
  rfl

/-- The methods of registered classes before `Object` that are no bridges. -/
theorem mem_filter_contributedMethods_iff {chain : List ClassInfo}
    (hchain : ((r.superclassChain id).takeWhile (· ≠ .object)).mapM r.classInfo = .ok chain) :
    m ∈ (chain.flatMap r.contributedMethods).filter (!·.modifiers.isBridge) ↔
      m.modifiers.isBridge = false ∧ ∃ owner ∈ (r.superclassChain id).takeWhile (· ≠ .object),
        ∃ c, r.class? owner = some c ∧ (r.Declares owner m ∨ r.Offers owner m) := by
  simp only [List.mem_filter, List.mem_flatMap, mem_mapM_classInfo_iff hchain, Bool.not_eq_true']
  constructor
  · rintro ⟨⟨c, ⟨owner, howner, hc⟩, hm⟩, hbridge⟩
    exact ⟨hbridge, owner, howner, c, hc, (mem_contributedMethods_iff hc).1 hm⟩
  · rintro ⟨hbridge, owner, howner, c, hc, hm⟩
    exact ⟨⟨c, ⟨owner, howner, hc⟩, (mem_contributedMethods_iff hc).2 hm⟩, hbridge⟩

/-- The methods of a registered class can be collected. -/
theorem WellFormed.exists_collectedMethods_eq_ok (hr : r.WellFormed) (hc : r.class? id = some c) :
    ∃ methods, r.collectedMethods id = .ok methods := by
  have hregistered : ∀ owner ∈ (r.superclassChain id).takeWhile (· ≠ .object),
      ∃ c, r.class? owner = some c := fun owner howner =>
    hr.exists_class_of_mem_superclassChain hc (List.takeWhile_subset _ howner)
  obtain ⟨chain, hchain⟩ := exists_mapM_classInfo_eq_ok hregistered
  exact ⟨_, collectedMethods_eq_ok_iff.2 ⟨chain, hchain, rfl⟩⟩

/-- What is in the list is collected, and for everything that is collected there is a method with
its signature in the list. -/
theorem Reachable.mem_collectedMethods (h : r.Reachable) (hc : r.class? id = some c)
    (hok : r.collectedMethods id = .ok methods) :
    (∀ m ∈ methods, r.Collects id m) ∧
      ∀ m, r.Collects id m → ∃ m' ∈ methods, m'.signature = m.signature := by
  obtain ⟨chain, hchain, rfl⟩ := collectedMethods_eq_ok_iff.1 hok
  have hmem : ∀ m, m ∈ (chain.flatMap r.contributedMethods).filter (!·.modifiers.isBridge) ↔
      r.Collects id m := by
    intro m
    rw [mem_filter_contributedMethods_iff hchain, Collects]
    refine and_congr_right fun _ => exists_congr fun owner => ?_
    rw [h.mem_takeWhile_superclassChain_iff hc, and_assoc]
    refine and_congr_right fun hreach => and_congr_right fun _ => ?_
    obtain ⟨c', hc'⟩ := h.wellFormed.exists_class_of_mem_superclassChain hc
      (mem_superclassChain_iff.2 hreach)
    exact ⟨fun ⟨_, _, hm⟩ => hm, fun hm => ⟨c', hc', hm⟩⟩
  refine ⟨fun m hm => (hmem m).1 (mem_of_mem_distinctFrom hm), fun m hm => ?_⟩
  exact (exists_mem_distinctFrom [] ((hmem m).2 hm)).resolve_left List.not_mem_nil

/-- The methods that are collected for a class are declared by registered classes. -/
theorem exists_declares_of_mem_collectedMethods (hok : r.collectedMethods id = .ok methods)
    (hm : m ∈ methods) : ∃ owner, r.Declares owner m := by
  obtain ⟨chain, hchain, rfl⟩ := collectedMethods_eq_ok_iff.1 hok
  obtain ⟨-, owner, -, c, -, hdeclares | ⟨interface, -, hdeclares, -⟩⟩ :=
    (mem_filter_contributedMethods_iff hchain).1 (mem_of_mem_distinctFrom hm)
  · exact ⟨owner, hdeclares⟩
  · exact ⟨interface, hdeclares⟩

/-! ### Fields -/

/-- The field is one of those that the class declares. -/
def DeclaresField (r : Registry) (owner : ClassId) (f : Field) : Prop :=
  ∃ c, r.class? owner = some c ∧ f ∈ c.fields

/-- The fields of a superclass chain are those that its classes declare. -/
theorem mem_chainFields_iff (hok : r.chainFields id = .ok fields) {f : Field} :
    f ∈ fields ↔ ∃ owner, r.hierarchy.Reaches .superclass id owner ∧ r.DeclaresField owner f := by
  obtain ⟨chain, hchain, hok⟩ := Except.bind_eq_ok_iff.1 hok
  cases hok
  simp only [List.mem_flatMap, mem_mapM_classInfo_iff hchain, mem_superclassChain_iff,
    DeclaresField]
  constructor
  · rintro ⟨c, ⟨owner, howner, hc⟩, hf⟩
    exact ⟨owner, howner, c, hc, hf⟩
  · rintro ⟨owner, howner, c, hc, hf⟩
    exact ⟨c, ⟨owner, howner, hc⟩, hf⟩

/-- The fields of the chain of a registered class can be gathered. -/
theorem WellFormed.exists_chainFields_eq_ok (hr : r.WellFormed) (hc : r.class? id = some c) :
    ∃ fields, r.chainFields id = .ok fields := by
  obtain ⟨chain, hchain⟩ := exists_mapM_classInfo_eq_ok fun owner howner =>
    hr.exists_class_of_mem_superclassChain hc howner
  exact ⟨_, Except.bind_eq_ok_iff.2 ⟨chain, hchain, rfl⟩⟩

end Registry

/-! ### Metadata -/

namespace Metadata

variable {r : Registry} {id : ClassId} {c : ClassInfo} {m : Metadata}

/-- The metadata of a registered class have the properties that its collected methods make. -/
theorem ofClass_eq (hc : r.class? id = some c) (hmethods : r.collectedMethods id = .ok methods) :
    ofClass r id = (if c.isRecord then r.recordProperties id methods
      else r.ordinaryProperties id methods).map fun properties =>
        ⟨properties, id, c.name, c.defaultConstructor?⟩ := by
  have hinfo : r.classInfo id = .ok c := by rw [Registry.classInfo, hc]
  rw [ofClass, hinfo]
  simp only [bind, Except.bind, hmethods]
  split
  · cases r.recordProperties id methods <;> rfl
  · cases r.ordinaryProperties id methods <;> rfl

/-- What has been built for a class shows its collected methods and, unless it is a record, the
fields of its superclass chain. -/
theorem exists_origin (hok : ofClass r id = .ok m) :
    ∃ c methods fields, r.class? id = some c ∧ r.collectedMethods id = .ok methods ∧
      (if c.isRecord then fields = [] else r.chainFields id = .ok fields) ∧
        m.toProperties.Show ⟨r.hierarchy, id, c.isRecord, methods, fields⟩ ∧
          m.defaultConstructor? = c.defaultConstructor? := by
  obtain ⟨c, hc, hok⟩ := Except.bind_eq_ok_iff.1 hok
  obtain ⟨methods, hmethods, hok⟩ := Except.bind_eq_ok_iff.1 hok
  have hclass : r.class? id = some c := Registry.class?_of_classInfo_eq_ok hc
  dsimp only at hok
  cases hrecord : c.isRecord with
  | true =>
    rw [hrecord, if_pos rfl] at hok
    obtain ⟨properties, hproperties, hok⟩ := Except.bind_eq_ok_iff.1 hok
    cases hok
    obtain ⟨p, hp, hshow⟩ := r.exists_recordProperties_eq_ok id methods
    cases hproperties.symm.trans hp
    exact ⟨c, methods, [], hclass, hmethods, by simp [hrecord], hrecord ▸ hshow, rfl⟩
  | false =>
    rw [hrecord, if_neg Bool.false_ne_true] at hok
    obtain ⟨properties, hproperties, hok⟩ := Except.bind_eq_ok_iff.1 hok
    cases hok
    obtain ⟨getters, -, hchain⟩ := Except.bind_eq_ok_iff.1 hproperties
    obtain ⟨setters, -, hchain⟩ := Except.bind_eq_ok_iff.1 hchain
    obtain ⟨fields, hfields, -⟩ := Except.bind_eq_ok_iff.1 hchain
    obtain ⟨p, hp, hshow⟩ := Registry.exists_ordinaryProperties_eq_ok hfields methods
    cases hproperties.symm.trans hp
    exact ⟨c, methods, fields, hclass, hmethods, by simpa [hrecord] using hfields,
      hrecord ▸ hshow, rfl⟩

/-- Metadata can be built for every registered class. -/
theorem exists_ofClass_eq_ok (hr : r.WellFormed) (hc : r.class? id = some c) :
    ∃ m, ofClass r id = .ok m := by
  obtain ⟨methods, hmethods⟩ := hr.exists_collectedMethods_eq_ok hc
  obtain ⟨fields, hfields⟩ := hr.exists_chainFields_eq_ok hc
  have hproperties : ∃ p, (if c.isRecord then r.recordProperties id methods
      else r.ordinaryProperties id methods) = .ok p := by
    split
    · obtain ⟨p, hp, -⟩ := r.exists_recordProperties_eq_ok id methods
      exact ⟨p, hp⟩
    · obtain ⟨p, hp, -⟩ := Registry.exists_ordinaryProperties_eq_ok hfields methods
      exact ⟨p, hp⟩
  obtain ⟨p, hp⟩ := hproperties
  exact ⟨⟨p, id, c.name, c.defaultConstructor?⟩, by rw [ofClass_eq hc hmethods, hp]; rfl⟩

end Metadata

end Introspection
