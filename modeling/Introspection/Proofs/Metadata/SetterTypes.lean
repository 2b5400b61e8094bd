import Introspection.Proofs.Metadata.Setters

/-!
# The types of setters

Whether the setter of a property takes what its getter returns (`Metadata.SetterMatches`), given
that some setter does.

The class that a getter returns is that of its type as seen from the class, with the type parameters
of superclasses replaced.  The setters are compared with it by the classes of their types as written
where they are declared, in which a type parameter counts as its bound.  So a setter that takes a
type parameter is passed over even if the parameter stands for what the getter returns, and the
property may be written through another one.  `Metadata.setterMatches_iff` says when the two match
all the same; they do wherever the setters of the property take classes that do not depend on the
class they are seen from.
-/

namespace Introspection

namespace Hierarchy

variable {h : Hierarchy} {wanted : Option ClassRef} {setters : List Method} {k : Method}
  {choice : SetterChoice}

/-- A setter that is chosen is the only outcome of the choice. -/
theorem ChoosesSetter.eq_winner (hk : h.ChoosesSetter wanted setters (.winner k))
    (hchoice : h.ChoosesSetter wanted setters choice) : choice = .winner k := by
  cases hk with
  | exact hfind =>
    obtain ⟨hmem, hexact⟩ := exact_of_find? hfind
    cases hchoice with
    | exact hfind' => rw [Option.some.inj (hfind'.symm.trans hfind)]
    | narrowest hnone _ => exact absurd hexact (hnone k hmem)
    | undecided hnone _ => exact absurd hexact (hnone k hmem)
  | narrowest hnone hsettles =>
    cases hchoice with
    | exact hfind => cases hfind.symm.trans (find?_exact_eq_none_iff.2 hnone)
    | narrowest _ hsettles' => rw [Option.some.inj (hsettles'.last.symm.trans hsettles.last)]
    | undecided _ hundecided => exact absurd hsettles hundecided.not_settlesOn

end Hierarchy

namespace Metadata

variable {r : Registry} {id : ClassId} {c : ClassInfo} {m : Metadata} {methods : List Method}
  {name : String} {g s : Method} {type : ClassRef}

/-- A property is written through a definite accessor, and the value written is of a class. -/
def SetterMatches (m : Metadata) (name : String) (type : ClassRef) : Prop :=
  (∃ a, m.accessor .set name = .ok a ∧ a.isAmbiguous = false) ∧ m.valueType .set name = .ok type

/-- Where a setter takes what the definite getter of the property returns, the property is written
with this class exactly if the setter takes it that the choice comes to, which compares the classes
of the types as they are written.  That is so wherever all setters of the property take the same
classes as seen from the class. -/
theorem setterMatches_iff (h : r.Reachable) (hc : r.class? id = some c)
    (hrecord : c.isRecord = false) (hm : ofClass r id = .ok m)
    (hmethods : r.collectedMethods id = .ok methods)
    (hg : m.accessor .get name = .ok (.method g)) (htype : m.valueType .get name = .ok type)
    (hs : s ∈ methods) (haccesses : s.Accesses .set name)
    (hmatch : r.hierarchy.resolvedParam id s = .ok type) :
    (m.SetterMatches name type ↔
      ∃ k, r.hierarchy.ChoosesSetter (some type) (methods.filter (·.Accesses .set name))
        (.winner k) ∧ r.hierarchy.resolvedParam id k = .ok type) ∧
    ((∀ k ∈ methods, k.Accesses .set name →
        r.hierarchy.resolvedParam id k = .ok k.firstParamClass) → m.SetterMatches name type) := by
  obtain ⟨methods', hmethods', hproperties⟩ := exists_ordinaryProperties_of_ofClass hc hrecord hm
  cases hmethods.symm.trans hmethods'
  have hcandidate : s ∈ methods.filter (·.Accesses .set name) :=
    List.mem_filter.2 ⟨hs, decide_eq_true haccesses⟩
  obtain ⟨choice, type', hfind, htype', hchooses⟩ :=
    Registry.exists_find?_setters h.grounded hproperties (List.ne_nil_of_mem hcandidate)
  have hwanted : m.getters.methodType? name = some type :=
    PropertyTable.methodType?_eq_some_iff.2
      ⟨g, accessor_eq_ok_iff.1 hg, valueType_eq_ok_iff.1 htype⟩
  rw [hwanted] at hchooses
  obtain ⟨haccessor, hvalue⟩ := PropertyTable.find?_eq_some_iff.1 hfind
  have ha : m.accessor .set name = .ok choice.accessor := accessor_eq_ok_iff.2 haccessor
  have hv : m.valueType .set name = .ok type' := valueType_eq_ok_iff.2 hvalue
  have hiff : m.SetterMatches name type ↔
      ∃ k, r.hierarchy.ChoosesSetter (some type) (methods.filter (·.Accesses .set name))
        (.winner k) ∧ r.hierarchy.resolvedParam id k = .ok type := by
    constructor
    · rintro ⟨⟨a, ha', hdefinite⟩, hv'⟩
      cases ha.symm.trans ha'
      cases hv.symm.trans hv'
      cases choice with
      | winner k => exact ⟨k, hchooses, htype'⟩
      | ambiguous k cause => cases hdefinite
    · rintro ⟨k, hk, hresolved⟩
      obtain rfl := hk.eq_winner hchooses
      cases htype'.symm.trans hresolved
      exact ⟨⟨.method k, ha, rfl⟩, hv⟩
  refine ⟨hiff, fun hplain => hiff.2 ?_⟩
  -- the setter that matches takes exactly the wanted class, so there is a first one that does
  have hexact : some type = some s.firstParamClass := by
    rw [Except.ok.inj (hmatch.symm.trans (hplain s hs haccesses))]
  obtain ⟨k, hk⟩ := Hierarchy.exists_find?_exact hcandidate hexact
  obtain ⟨hkmem, hclass⟩ := Hierarchy.exact_of_find? hk
  obtain ⟨hkmem, hkaccesses⟩ := List.mem_filter.1 hkmem
  have hresolved := hplain k hkmem (of_decide_eq_true hkaccesses)
  exact ⟨k, .exact hk, by rw [hresolved, Option.some.inj hclass]⟩

/-- The draft of a class with a type parameter that has two properties of this type, one of which
can be written. -/
def baseDraft : ClassDraft :=
  let element := Ty.var ⟨"T", .classOwner ⟨7⟩⟩ []
  ((((ClassDraft.ofKind ⟨7⟩ "Base" .ordinary).withParam "T" []).withMethod
    { MethodDraft.named "getValue" with returnType := element }).withMethod
      { MethodDraft.named "setValue" with params := [element] }).withMethod
        { MethodDraft.named "getNote" with returnType := element }

/-- The draft of a class that extends it with strings for the parameter, can be given an integer for
the first property, and both an integer and a string for the second one. -/
def textDraft : ClassDraft :=
  ((((ClassDraft.ofKind ⟨8⟩ "Text" .ordinary).withSuperclass
    (.parameterized ⟨7⟩ [.ofClass ⟨1⟩])).withMethod (setterDraft "setValue" ⟨3⟩)).withMethod
      (setterDraft "setNote" ⟨3⟩)).withMethod (setterDraft "setNote" ⟨1⟩)

/-- The calls that define both classes. -/
def textCalls : List RegistryCall :=
  Registry.definitionCalls [baseDraft, textDraft]

theorem textCalls_reachable : (textCalls.foldl Registry.after .initial).Reachable :=
  Registry.reachable_definitionCalls (by decide)

/-- Both properties of the second class are read through a method that returns strings, and some
setter of theirs takes strings as seen from the class. -/
theorem textCalls_exists_match :
    let r := textCalls.foldl Registry.after .initial
    ∃ c m methods, r.class? ⟨8⟩ = some c ∧ c.isRecord = false ∧ ofClass r ⟨8⟩ = .ok m ∧
      r.collectedMethods ⟨8⟩ = .ok methods ∧ ∀ name ∈ ["note", "value"],
        (∃ g, m.accessor .get name = .ok (.method g)) ∧
        m.valueType .get name = .ok (.declared ⟨1⟩) ∧
        ∃ s ∈ methods, s.Accesses .set name ∧
          r.hierarchy.resolvedParam ⟨8⟩ s = .ok (.declared ⟨1⟩) := by
  intro r
  have hordinary : (r.class? ⟨8⟩).map (·.isRecord) = some false := by decide +kernel
  obtain ⟨c, hc, hrecord⟩ := Option.map_eq_some_iff.1 hordinary
  obtain ⟨m, hm⟩ := exists_ofClass_eq_ok textCalls_reachable.wellFormed hc
  obtain ⟨methods, hmethods, -⟩ := exists_ordinaryProperties_of_ofClass hc hrecord hm
  have hgetters : (ofClass r ⟨8⟩).toOption.map (fun m =>
      ["note", "value"].all fun name => m.getters.methodType? name = some (.declared ⟨1⟩)) =
      some true := by decide +kernel
  have hsetters : (r.collectedMethods ⟨8⟩).toOption.map (fun methods =>
      ["note", "value"].all fun name => methods.any fun s => s.Accesses .set name ∧
        (r.hierarchy.resolvedParam ⟨8⟩ s).toOption = some (.declared ⟨1⟩)) = some true := by
    decide +kernel
  rw [hm, Except.toOption, Option.map_some, Option.some.injEq, List.all_eq_true] at hgetters
  rw [hmethods, Except.toOption, Option.map_some, Option.some.injEq, List.all_eq_true] at hsetters
  refine ⟨c, m, methods, hc, hrecord, hm, hmethods, fun name hname => ?_⟩
  obtain ⟨g, hg, htype⟩ :=
    PropertyTable.methodType?_eq_some_iff.1 (of_decide_eq_true (hgetters name hname))
  obtain ⟨s, hs, hmatch⟩ := List.any_eq_true.1 (hsetters name hname)
  obtain ⟨haccesses, hresolved⟩ := of_decide_eq_true hmatch
  exact ⟨⟨g, accessor_eq_ok_iff.2 hg⟩, valueType_eq_ok_iff.2 htype, s, hs, haccesses,
    Except.toOption_eq_some_iff.1 hresolved⟩

/-- The note is written through the setter that takes strings, as all its setters take the same
classes as seen from the class. -/
theorem textCalls_setterMatches :
    ∃ m, ofClass (textCalls.foldl Registry.after .initial) ⟨8⟩ = .ok m ∧
      m.SetterMatches "note" (.declared ⟨1⟩) := by
  obtain ⟨c, m, methods, hc, hrecord, hm, hmethods, hmatch⟩ := textCalls_exists_match
  obtain ⟨⟨g, hg⟩, htype, s, hs, haccesses, hresolved⟩ := hmatch "note" (by simp)
  have hplain : ((textCalls.foldl Registry.after .initial).collectedMethods ⟨8⟩).toOption.map
      (fun methods => methods.all fun k => k.Accesses .set "note" →
        ((textCalls.foldl Registry.after .initial).hierarchy.resolvedParam ⟨8⟩ k).toOption =
          some k.firstParamClass) = some true := by decide +kernel
  rw [hmethods, Except.toOption, Option.map_some, Option.some.injEq, List.all_eq_true] at hplain
  refine ⟨m, hm, (setterMatches_iff textCalls_reachable hc hrecord hm hmethods hg htype hs
    haccesses hresolved).2 fun k hk hkaccesses => ?_⟩
  exact Except.toOption_eq_some_iff.1 (of_decide_eq_true (hplain k hk) hkaccesses)

/-- The value is written through the setter that takes integers, although the inherited one takes
what the getter returns, as seen from the class. -/
theorem textCalls_not_setterMatches :
    let r := textCalls.foldl Registry.after .initial
    r.Reachable ∧ ∃ c m methods, r.class? ⟨8⟩ = some c ∧ c.isRecord = false ∧
      ofClass r ⟨8⟩ = .ok m ∧ r.collectedMethods ⟨8⟩ = .ok methods ∧
      (∃ g, m.accessor .get "value" = .ok (.method g)) ∧
      m.valueType .get "value" = .ok (.declared ⟨1⟩) ∧
      (∃ s ∈ methods, s.Accesses .set "value" ∧
        r.hierarchy.resolvedParam ⟨8⟩ s = .ok (.declared ⟨1⟩)) ∧
      m.valueType .set "value" = .ok (.declared ⟨3⟩) ∧
      ¬ m.SetterMatches "value" (.declared ⟨1⟩) := by
  intro r
  obtain ⟨c, m, methods, hc, hrecord, hm, hmethods, hmatch⟩ := textCalls_exists_match
  obtain ⟨hg, htype, hs⟩ := hmatch "value" (by simp)
  have hshown : (ofClass r ⟨8⟩).toOption.map (fun m => (m.valueType .set "value").toOption) =
      some (some (.declared ⟨3⟩)) := by decide +kernel
  rw [hm, Except.toOption, Option.map_some, Option.some.injEq] at hshown
  have hwritten : m.valueType .set "value" = .ok (.declared ⟨3⟩) :=
    Except.toOption_eq_some_iff.1 hshown
  refine ⟨textCalls_reachable, c, m, methods, hc, hrecord, hm, hmethods, hg, htype, hs, hwritten,
    fun hmatches => ?_⟩
  cases hwritten.symm.trans hmatches.2

end Metadata

end Introspection
