import Introspection.Proofs.Metadata.Collection
import Introspection.Proofs.Metadata.InStep
import Introspection.Proofs.Metadata.Names
import Mathlib.Data.List.Nodup

/-!
# Components of records

A record is read through its collected methods without parameters, each recorded under its own name
and a later one in the place of an earlier one.

The names are recorded as they stand.  On every other way to a property a reserved name is left out
(`Origin.Provides.allowed_or`), so reserved names are properties of records alone, and of those that
have a method of that name (`Metadata.exists_ofClass_reserved_iff`).

The methods come in the order of the walk over the class and its supertypes, so the record's own
method of a name stands before those that it inherits, and one of these takes its place if there is
any.  None is left of those that return the same class, since these have the same signature.  A
component is therefore read through the record's own method exactly if nothing that the record
inherits from has one of its name that returns another class
(`Metadata.exists_ofClass_component`).
-/

namespace Introspection

variable {name : String}

/-! ### Reserved names -/

/-- A name is provided only if a property may have it, or if it is that of a method of a record
without parameters. -/
theorem Origin.Provides.allowed_or {o : Origin} {direction : Direction}
    (hprovides : o.Provides direction name) : PropertyName.Allowed name ∨
      o.isRecord = true ∧ direction = .get ∧ ∃ m ∈ o.methods, m.params = [] ∧ m.name = name := by
  rcases hprovides with ⟨m, hm, hprovides⟩ | ⟨f, -, -, hallowed, -⟩
  · cases hrecord : o.isRecord with
    | false =>
      rw [hrecord, Method.Provides, if_neg Bool.false_ne_true] at hprovides
      exact .inl (PropertyName.isAllowed_iff.1 hprovides.2.2)
    | true =>
      rw [hrecord, Method.Provides, if_pos rfl] at hprovides
      obtain ⟨hdirection, hparams, hname⟩ := hprovides
      exact .inr ⟨rfl, hdirection, m, hm, hparams, hname⟩
  · exact .inl (PropertyName.isAllowed_iff.1 hallowed)

namespace Metadata

variable {r : Registry} {id : ClassId} {c : ClassInfo}

/-- A name that no property may have cannot be written, and it can be read only of a record, namely
if a collected method without parameters has this name. -/
theorem exists_ofClass_reserved_iff (h : r.Reachable) (hc : r.class? id = some c) :
    ∃ m, ofClass r id = .ok m ∧ ∀ name, ¬ PropertyName.Allowed name →
      name ∉ m.writable ∧
        (name ∈ m.readable ↔ c.isRecord = true ∧ r.HasComponent id name) := by
  obtain ⟨m, hm⟩ := exists_ofClass_eq_ok h.wellFormed hc
  obtain ⟨c', methods, fields, hc', hmethods, -, ⟨hget, hset⟩, -⟩ := exists_origin hm
  cases hc.symm.trans hc'
  refine ⟨m, hm, fun name hreserved => ⟨fun hwritten => ?written, ?read, ?component⟩⟩
  case written =>
    rcases (hset.mem_names_iff.1 hwritten).allowed_or with hallowed | ⟨-, hdirection, -⟩
    · exact hreserved hallowed
    · cases hdirection
  case read =>
    intro hread
    rcases (hget.mem_names_iff.1 hread).allowed_or with hallowed | ⟨hrecord, -, k, hk, hcomponent⟩
    · exact absurd hallowed hreserved
    · exact ⟨hrecord, k, (h.mem_collectedMethods hc hmethods).1 k hk, hcomponent⟩
  case component =>
    rintro ⟨hrecord, k, hk, hparams, hname⟩
    have hprovides : k.Provides c.isRecord .get name := by
      rw [hrecord, Method.Provides, if_pos rfl]
      exact ⟨rfl, hparams, hname⟩
    exact hget.complete (.inl ((h.exists_provides_iff hc hmethods).2 ⟨k, hk, hprovides⟩))

/-- The drafts of a record with a component named `class`, and of a class with a getter and a field
of reserved names. -/
def entryDrafts : List ClassDraft :=
  [(ClassDraft.ofKind ⟨7⟩ "Entry" .record).withMethod
      { MethodDraft.named "class" with returnType := .ofClass ⟨1⟩ },
    ((ClassDraft.ofKind ⟨8⟩ "Index" .ordinary).withMethod
      { MethodDraft.named "getClass" with returnType := .ofClass ⟨1⟩ }).withField
      (.named "$entries" (.ofClass ⟨0⟩))]

theorem entryDrafts_reachable :
    ((Registry.definitionCalls entryDrafts).foldl Registry.after .initial).Reachable :=
  Registry.reachable_definitionCalls (by decide)

/-- Of the class neither the getter nor the field is a property. -/
theorem entryDrafts_not_mem_readable :
    let r := (Registry.definitionCalls entryDrafts).foldl Registry.after .initial
    ∃ m, ofClass r ⟨8⟩ = .ok m ∧ "class" ∉ m.readable ∧ "$entries" ∉ m.readable ∧
      "$entries" ∉ m.writable := by
  intro r
  have hordinary : (r.class? ⟨8⟩).map (·.isRecord) = some false := by decide +kernel
  obtain ⟨c, hc, hrecord⟩ := Option.map_eq_some_iff.1 hordinary
  obtain ⟨m, hm, hreserved⟩ := exists_ofClass_reserved_iff entryDrafts_reachable hc
  have hclass : ¬ PropertyName.Allowed "class" := fun hallowed => hallowed.2.2 rfl
  have hentries : ¬ PropertyName.Allowed "$entries" := fun hallowed => hallowed.1 (by decide)
  have hnot : ¬ c.isRecord = true := by simp [hrecord]
  exact ⟨m, hm, fun hread => hnot ((hreserved "class" hclass).2.1 hread).1,
    fun hread => hnot ((hreserved "$entries" hentries).2.1 hread).1,
    (hreserved "$entries" hentries).1⟩

/-- Of the record the component is a property, although its name is reserved. -/
theorem entryDrafts_class_mem_readable :
    let r := (Registry.definitionCalls entryDrafts).foldl Registry.after .initial
    r.Reachable ∧ ∃ c m, r.class? ⟨7⟩ = some c ∧ ofClass r ⟨7⟩ = .ok m ∧ "class" ∈ m.readable ∧
      ¬ PropertyName.Allowed "class" := by
  intro r
  have hshown : ((r.class? ⟨7⟩).any fun _ => ((ofClass r ⟨7⟩).toOption).any fun m =>
      decide ("class" ∈ m.readable)) = true := by decide +kernel
  obtain ⟨c, hc, hshown⟩ := (Option.any_eq_true _ _).1 hshown
  obtain ⟨m, hm, hread⟩ := (Option.any_eq_true _ _).1 hshown
  exact ⟨entryDrafts_reachable, c, m, hc, Except.toOption_eq_some_iff.1 hm,
    of_decide_eq_true hread, fun hallowed => hallowed.2.2 rfl⟩

end Metadata

/-! ### Methods of one name -/

/-- The method has no parameters and this name. -/
def Method.IsComponent (name : String) (m : Method) : Prop :=
  m.params = [] ∧ m.name = name

instance (name : String) : DecidablePred (Method.IsComponent name) :=
  fun m => inferInstanceAs (Decidable (m.params = [] ∧ m.name = name))

/-- Methods without parameters have one signature if they have one name and return one class. -/
theorem Method.IsComponent.signature_eq_iff {m m' : Method} (hm : m.IsComponent name)
    (hm' : m'.IsComponent name) :
    m.signature = m'.signature ↔ m.returnClass = m'.returnClass := by
  have hslot : m.slot = m'.slot := by
    rw [slot, slot, paramClasses, paramClasses, hm.1, hm'.1, hm.2, hm'.2]
  rw [signature, signature, hslot, Signature.mk.injEq, and_iff_left rfl]

theorem Method.isComponent_iff_of_signature_eq {m m' : Method}
    (hsignature : m'.signature = m.signature) : m'.IsComponent name ↔ m.IsComponent name := by
  have hprovides : ∀ k : Method, k.IsComponent name ↔ k.Provides true .get name := by
    intro k
    rw [Provides, if_pos rfl, and_iff_right rfl, IsComponent]
  rw [hprovides, hprovides]
  exact ⟨fun hm' => hm'.of_signature_eq hsignature.symm, fun hm => hm.of_signature_eq hsignature⟩

/-- Under a name a record is read through the last of its methods without parameters that have this
name, and the value is of the class that this method returns as seen from the record. -/
theorem Hierarchy.find?_componentsOf {h : Hierarchy} {source : ClassId} {methods : List Method}
    {t : PropertyTable} (hok : h.componentsOf source methods = .ok t) {g : Method}
    (hlast : (methods.filter (·.IsComponent name)).getLast? = some g) :
    ∃ type, t.find? name = some ⟨.method g, type⟩ ∧
      h.resolvedClass source g.returnType g.declaring = .ok type := by
  obtain ⟨entries, hentries, hok⟩ := Except.bind_eq_ok_iff.1 hok
  cases hok
  have hnamed := Except.filter_of_mapM_eq_ok (p := fun m => m.name = name)
    (q := fun entry => entry.1 = name) hentries fun {m entry} hentry => by
      obtain ⟨p, -, rfl⟩ := Except.map_eq_ok_iff.1 hentry
      rfl
  have hfilter : (methods.filter (·.params.isEmpty)).filter (·.name = name) =
      methods.filter (·.IsComponent name) := by
    rw [List.filter_filter]
    refine List.filter_congr fun m _ => ?_
    rw [Bool.eq_iff_iff]
    simp [Method.IsComponent, and_comm]
  rw [hfilter] at hnamed
  obtain ⟨entry, hentry, hmade⟩ := Except.exists_getLast?_of_mapM_eq_ok hnamed hlast
  obtain ⟨p, hread, rfl⟩ := Except.map_eq_ok_iff.1 hmade
  obtain ⟨type, htype, rfl⟩ := Except.map_eq_ok_iff.1 hread
  refine ⟨type, ?_, htype⟩
  rw [PropertyTable.find?_ofList, hentry]
  rfl

namespace Registry

variable {r : Registry} {id : ClassId} {c : ClassInfo} {methods : List Method} {k : Method}

/-- The only method of its name and without parameters that a class declares is the first one of
them that is collected. -/
theorem Reachable.head?_filter_isComponent (h : r.Reachable) (hc : r.class? id = some c)
    (hmethods : r.collectedMethods id = .ok methods) (hk : k ∈ c.methods) (hparams : k.params = [])
    (hbridge : k.modifiers.isBridge = false)
    (hone : ∀ k' ∈ c.methods, k'.modifiers.isBridge = false → k'.IsComponent k.name → k' = k) :
    (methods.filter (·.IsComponent k.name)).head? = some k := by
  obtain ⟨walk, hwalk, hok⟩ := h.exists_methodWalk hc
  cases hmethods.symm.trans hok
  have hcomponent : decide (k.IsComponent k.name) = true := decide_eq_true ⟨hparams, rfl⟩
  obtain ⟨k', hk', hbridge', hcomponent', hfirst⟩ :=
    h.exists_find?_of_mem_methods hc hwalk (p := (·.IsComponent k.name)) hk hbridge hcomponent
  obtain rfl := hone k' hk' hbridge' (of_decide_eq_true hcomponent')
  have hsame : ∀ m m' : Method, m.signature = m'.signature →
      decide (m.IsComponent k'.name) = decide (m'.IsComponent k'.name) := fun m m' hsignature =>
    decide_eq_decide.2 (Method.isComponent_iff_of_signature_eq hsignature)
  rw [List.head?_filter, find?_distinctFrom hsame fun m hm => absurd hm List.not_mem_nil, hfirst]

/-- The first collected method of a name and without parameters is the only one of them exactly if
all that are at the disposal of the class return the same class as this one. -/
theorem Reachable.eq_of_mem_filter_isComponent_iff (h : r.Reachable) (hc : r.class? id = some c)
    (hmethods : r.collectedMethods id = .ok methods)
    (hfirst : (methods.filter (·.IsComponent name)).head? = some k) :
    (∀ g ∈ methods.filter (·.IsComponent name), g = k) ↔
      ∀ other, r.Collects id other → other.IsComponent name →
        other.returnClass = k.returnClass := by
  obtain ⟨hsound, hcomplete⟩ := h.mem_collectedMethods hc hmethods
  obtain ⟨hk, hcomponent⟩ := List.mem_filter.1 (List.mem_of_head? hfirst)
  have hcomponent := of_decide_eq_true hcomponent
  constructor
  · intro hall other hother hnamed
    obtain ⟨g, hg, hsignature⟩ := hcomplete other hother
    have hgnamed := (Method.isComponent_iff_of_signature_eq hsignature).2 hnamed
    obtain rfl := hall g (List.mem_filter.2 ⟨hg, decide_eq_true hgnamed⟩)
    exact (hnamed.signature_eq_iff hgnamed).1 hsignature.symm
  · intro hall g hg
    obtain ⟨hg, hnamed⟩ := List.mem_filter.1 hg
    have hnamed := of_decide_eq_true hnamed
    have hsignature : g.signature = k.signature :=
      (hnamed.signature_eq_iff hcomponent).2 (hall g (hsound g hg) hnamed)
    exact List.inj_on_of_nodup_map (nodup_map_signature_of_collectedMethods hmethods) hg hk
      hsignature

end Registry

namespace Metadata

variable {r : Registry} {id : ClassId} {c : ClassInfo}

/-- If a record declares one method of a name and without parameters, then the record is read under
this name through the last method of this kind that is collected, and the value is of the class that
this method returns as seen from the record.  It is the method of the record itself exactly if all
methods of this kind that are at the disposal of the record return the same class as this one. -/
theorem exists_ofClass_component (h : r.Reachable) (hc : r.class? id = some c)
    (hrecord : c.isRecord = true) {k : Method} (hk : k ∈ c.methods) (hparams : k.params = [])
    (hbridge : k.modifiers.isBridge = false)
    (hone : ∀ k' ∈ c.methods, k'.modifiers.isBridge = false → k'.IsComponent k.name → k' = k) :
    ∃ m methods g type, ofClass r id = .ok m ∧ r.collectedMethods id = .ok methods ∧
      (methods.filter (·.IsComponent k.name)).getLast? = some g ∧
      m.accessor .get k.name = .ok (.method g) ∧
      r.hierarchy.resolvedClass id g.returnType g.declaring = .ok type ∧
      m.valueType .get k.name = .ok type ∧
      (g = k ↔ ∀ other, r.Collects id other → other.IsComponent k.name →
        other.returnClass = k.returnClass) := by
  obtain ⟨methods, hmethods⟩ := h.wellFormed.exists_collectedMethods_eq_ok hc
  obtain ⟨t, ht, -⟩ := r.hierarchy.exists_componentsOf_eq_ok id methods
  have hm := ofClass_eq hc hmethods
  rw [if_pos hrecord, Registry.recordProperties, ht] at hm
  have hfirst := h.head?_filter_isComponent hc hmethods hk hparams hbridge hone
  obtain ⟨rest, hnamed⟩ := List.head?_eq_some_iff.1 hfirst
  obtain ⟨g, hlast⟩ : ∃ g, (methods.filter (·.IsComponent k.name)).getLast? = some g := by
    rw [hnamed, List.getLast?_cons]
    exact ⟨_, rfl⟩
  obtain ⟨type, hfind, htype⟩ := Hierarchy.find?_componentsOf ht hlast
  obtain ⟨haccessor, hclass⟩ := PropertyTable.find?_eq_some_iff.1 hfind
  refine ⟨_, methods, g, type, hm, hmethods, hlast, accessor_eq_ok_iff.2 haccessor, htype,
    valueType_eq_ok_iff.2 hclass, ?_⟩
  rw [← h.eq_of_mem_filter_isComponent_iff hc hmethods hfirst]
  constructor
  · rintro rfl g' hg'
    have hnodup : (methods.filter (·.IsComponent g.name)).Nodup :=
      (List.Nodup.of_map _ (Registry.nodup_map_signature_of_collectedMethods hmethods)).filter _
    -- it occurs once, so if it is both the first and the last one, it is alone
    rw [hnamed] at hnodup hlast hg'
    cases rest with
    | nil => exact List.mem_singleton.1 hg'
    | cons next rest =>
      rw [List.getLast?_cons_cons] at hlast
      exact absurd (List.mem_of_getLast? hlast) (List.nodup_cons.1 hnodup).1
  · intro hall
    exact hall g (List.mem_of_getLast? hlast)

/-- The drafts of an interface with a price and a label, and of a record that implements it and
narrows the class of the price. -/
def pricedDrafts : List ClassDraft :=
  [((ClassDraft.ofKind ⟨7⟩ "Priced" .interface).withMethod
      { MethodDraft.named "price" with returnType := .ofClass ⟨2⟩ }).withMethod
      { MethodDraft.named "label" with returnType := .ofClass ⟨1⟩ },
    (((ClassDraft.ofKind ⟨8⟩ "Item" .record).withInterface (.ofClass ⟨7⟩)).withMethod
      { MethodDraft.named "price" with returnType := .ofClass ⟨3⟩ }).withMethod
      { MethodDraft.named "label" with returnType := .ofClass ⟨1⟩ }]

theorem pricedDrafts_reachable :
    ((Registry.definitionCalls pricedDrafts).foldl Registry.after .initial).Reachable :=
  Registry.reachable_definitionCalls (by decide)

/-- The record declares a price of integers and a label. -/
theorem pricedDrafts_class? :
    let r := (Registry.definitionCalls pricedDrafts).foldl Registry.after .initial
    ∃ c price label, r.class? ⟨8⟩ = some c ∧ c.isRecord = true ∧ c.methods = [price, label] ∧
      price.IsComponent "price" ∧ price.modifiers.isBridge = false ∧ price.declaring = ⟨8⟩ ∧
      r.hierarchy.resolvedClass ⟨8⟩ price.returnType price.declaring = .ok (.declared ⟨3⟩) ∧
      label.IsComponent "label" ∧ label.modifiers.isBridge = false ∧
      (c.methods.map (·.name)).Nodup := by
  intro r
  have hshown : ((r.class? ⟨8⟩).any fun c => decide (c.isRecord = true ∧
      c.methods.map (fun m => (m.params.isEmpty, m.name, m.modifiers.isBridge, m.declaring,
        (r.hierarchy.resolvedClass ⟨8⟩ m.returnType m.declaring).toOption)) =
          [(true, "price", false, ⟨8⟩, some (.declared ⟨3⟩)),
            (true, "label", false, ⟨8⟩, some (.declared ⟨1⟩))])) = true := by decide +kernel
  obtain ⟨c, hc, hshown⟩ := (Option.any_eq_true _ _).1 hshown
  obtain ⟨hrecord, hmethods⟩ := of_decide_eq_true hshown
  obtain ⟨price, rest, hmethods, hprice, hrest⟩ := List.map_eq_cons_iff.1 hmethods
  obtain ⟨label, rest', rfl, hlabel, hrest'⟩ := List.map_eq_cons_iff.1 hrest
  obtain rfl := List.map_eq_nil_iff.1 hrest'
  simp only [Prod.mk.injEq, List.isEmpty_iff, Except.toOption_eq_some_iff] at hprice hlabel
  obtain ⟨hparams, hname, hbridge, hdeclaring, htype⟩ := hprice
  refine ⟨c, price, label, hc, hrecord, hmethods, ⟨hparams, hname⟩, hbridge, hdeclaring, htype,
    ⟨hlabel.1, hlabel.2.1⟩, hlabel.2.2.1, ?_⟩
  simp [hmethods, hname, hlabel.2.1]

/-- The label of the record is its own, as both labels are of one class. -/
theorem pricedDrafts_component :
    let r := (Registry.definitionCalls pricedDrafts).foldl Registry.after .initial
    ∃ m g, ofClass r ⟨8⟩ = .ok m ∧ m.accessor .get "label" = .ok (.method g) ∧
      g.declaring = ⟨8⟩ ∧ m.valueType .get "label" = .ok (.declared ⟨1⟩) := by
  intro r
  obtain ⟨c, price, label, hc, hrecord, hmethods, -, -, -, -, hlabel, hbridge, hnodup⟩ :=
    pricedDrafts_class?
  have hmem : label ∈ c.methods := by simp [hmethods]
  obtain ⟨m, methods, g, type, hm, -, -, haccessor, -, -, -⟩ :=
    exists_ofClass_component pricedDrafts_reachable hc hrecord hmem hlabel.1 hbridge
      fun k' hk' _ hcomponent => List.inj_on_of_nodup_map hnodup hk' hmem hcomponent.2
  rw [hlabel.2] at haccessor
  have hshown : (ofClass r ⟨8⟩).toOption.map (fun m =>
      ((m.accessor .get "label").toOption.map (·.declaring),
        (m.valueType .get "label").toOption)) = some (some ⟨8⟩, some (.declared ⟨1⟩)) := by
    decide +kernel
  rw [hm] at hshown
  obtain ⟨hdeclaring, htype⟩ : (m.accessor .get "label").toOption.map (·.declaring) = some ⟨8⟩ ∧
      (m.valueType .get "label").toOption = some (.declared ⟨1⟩) := by
    simpa [Except.toOption] using hshown
  rw [haccessor] at hdeclaring
  exact ⟨m, g, hm, haccessor, Option.some.inj hdeclaring, Except.toOption_eq_some_iff.1 htype⟩

/-- The price of the record is read through the method of the interface, and the value is of its
class, although the record declares a price of a narrower class. -/
theorem pricedDrafts_passes_over_own :
    let r := (Registry.definitionCalls pricedDrafts).foldl Registry.after .initial
    r.Reachable ∧ ∃ c k m g, r.class? ⟨8⟩ = some c ∧ c.isRecord = true ∧ k ∈ c.methods ∧
      k.params = [] ∧ k.modifiers.isBridge = false ∧
      (∀ k' ∈ c.methods, k'.modifiers.isBridge = false → k'.IsComponent k.name → k' = k) ∧
      ofClass r ⟨8⟩ = .ok m ∧ m.accessor .get k.name = .ok (.method g) ∧ g ≠ k ∧
      m.valueType .get k.name = .ok (.declared ⟨2⟩) ∧
      r.hierarchy.resolvedClass ⟨8⟩ k.returnType k.declaring = .ok (.declared ⟨3⟩) := by
  intro r
  obtain ⟨c, price, label, hc, hrecord, hmethods, hprice, hbridge, hdeclaring, htype, -, -,
    hnodup⟩ := pricedDrafts_class?
  have hmem : price ∈ c.methods := by simp [hmethods]
  have hshown : ((ofClass r ⟨8⟩).toOption.any fun m =>
      decide ((m.valueType .get "price").toOption = some (.declared ⟨2⟩)) &&
        (m.accessor .get "price").toOption.any fun a =>
          decide (a.isAmbiguous = false ∧ a.method?.map (·.declaring) = some ⟨7⟩)) = true := by
    decide +kernel
  obtain ⟨m, hm, hshown⟩ := (Option.any_eq_true _ _).1 hshown
  obtain ⟨hclass, hshown⟩ := Bool.and_eq_true_iff.1 hshown
  obtain ⟨a, ha, hshown⟩ := (Option.any_eq_true _ _).1 hshown
  obtain ⟨hdefinite, hmethod⟩ := of_decide_eq_true hshown
  obtain ⟨g, rfl, hother⟩ : ∃ g, a = .method g ∧ g.declaring = ⟨7⟩ := by
    cases a with
    | method g => exact ⟨g, rfl, Option.some.inj hmethod⟩
    | readField f => cases hmethod
    | writeField f => cases hmethod
    | ambiguous g cause => cases hdefinite
  have hne : g ≠ price := by
    rintro rfl
    have howner : (⟨7⟩ : ClassId) = ⟨8⟩ := hother.symm.trans hdeclaring
    exact absurd howner (by decide)
  refine ⟨pricedDrafts_reachable, c, price, m, g, hc, hrecord, hmem, hprice.1, hbridge,
    fun k' hk' _ hcomponent => List.inj_on_of_nodup_map hnodup hk' hmem hcomponent.2,
    Except.toOption_eq_some_iff.1 hm, ?_, hne, ?_, htype⟩
  · rw [hprice.2]
    exact Except.toOption_eq_some_iff.1 ha
  · rw [hprice.2]
    exact Except.toOption_eq_some_iff.1 (of_decide_eq_true hclass)

end Metadata

end Introspection
