import Introspection.Proofs.Hierarchy.DepthFirst
import Introspection.Proofs.Metadata.Origin
import Introspection.Proofs.Registry.Defaults

/-!
# Collecting methods

Which methods are collected for a class is a matter of the order in which they are come upon.
`Registry.MethodWalk` is this order: the methods of the class as they are declared, then those of
each interface that it names, depth-first from there (`Registry.InterfaceWalk`), and then the same
for its superclass, up to `Object`.

There is exactly one walk for a class (`MethodWalk.unique`), and what is collected is the first of
each signature on it, bridges apart (`collectedMethods_first`).  As the walk begins with the methods
of the class itself, none of these gives way to an inherited one
(`Reachable.exists_find?_of_mem_methods`).
-/

namespace Introspection.Registry

variable {r : Registry} {id : ClassId} {c : ClassInfo}

/-! ### The walk -/

/-- The public methods of some interfaces and of those above them, each interface in turn with all
that is above it, depth-first and each once. -/
inductive InterfaceWalk (r : Registry) : List ClassId → List Method → Prop
  /-- There is no interface. -/
  | none : InterfaceWalk r [] []
  /-- The first interface comes with all that is above it before the others. -/
  | next {first : ClassId} {rest order : List ClassId} {methods : List Method}
      (horder : r.hierarchy.DepthFirst .interfaces [] [first] order)
      (hrest : InterfaceWalk r rest methods) :
      InterfaceWalk r (first :: rest) (order.flatMap r.publicMethods ++ methods)

/-- The methods of a class and of all that it inherits from in the order in which they are come
upon. -/
inductive MethodWalk (r : Registry) : ClassId → List Method → Prop
  /-- The walk ends before `Object`. -/
  | object : MethodWalk r .object []
  /-- A class without a superclass: its own methods, then those of its interfaces. -/
  | root {id : ClassId} {c : ClassInfo} {offered : List Method} (hid : id ≠ .object)
      (hc : r.class? id = some c) (hsuper : c.superclass = none)
      (hoffered : InterfaceWalk r (c.interfaces.filterMap Ty.rawClass?) offered) :
      MethodWalk r id (c.methods ++ offered)
  /-- A class with a superclass: its own methods, those of its interfaces, then the walk of the
  superclass. -/
  | up {id raw : ClassId} {c : ClassInfo} {offered above : List Method} (hid : id ≠ .object)
      (hc : r.class? id = some c) (hsuper : c.superclass.bind Ty.rawClass? = some raw)
      (hoffered : InterfaceWalk r (c.interfaces.filterMap Ty.rawClass?) offered)
      (habove : MethodWalk r raw above) :
      MethodWalk r id (c.methods ++ offered ++ above)

/-- The interfaces determine the walk. -/
theorem InterfaceWalk.unique {ids : List ClassId} {methods other : List Method}
    (hwalk : r.InterfaceWalk ids methods) (hother : r.InterfaceWalk ids other) :
    other = methods := by
  induction hwalk generalizing other with
  | none =>
    cases hother
    rfl
  | next horder hrest ih =>
    cases hother with
    | next horder' hrest' => rw [ih hrest', horder.unique horder']

/-- The walk takes the methods of the interfaces as they are brought in by each. -/
theorem interfaceWalk_flatMap (r : Registry) (ids : List ClassId) :
    r.InterfaceWalk ids (ids.flatMap r.interfaceMethods) := by
  induction ids with
  | nil => exact .none
  | cons first rest ih => exact .next (Hierarchy.depthFirst_iff.2 rfl) ih

/-- The class determines the walk. -/
theorem MethodWalk.unique {walk other : List Method} (hwalk : r.MethodWalk id walk)
    (hother : r.MethodWalk id other) : other = walk := by
  induction hwalk generalizing other with
  | object =>
    cases hother with
    | object => rfl
    | root hid => exact absurd rfl hid
    | up hid => exact absurd rfl hid
  | root hid hc hsuper hoffered =>
    cases hother with
    | object => exact absurd rfl hid
    | root _ hc' _ hoffered' =>
      cases hc.symm.trans hc'
      rw [hoffered.unique hoffered']
    | up _ hc' hsuper' _ _ =>
      cases hc.symm.trans hc'
      rw [hsuper] at hsuper'
      cases hsuper'
  | up hid hc hsuper hoffered habove ih =>
    cases hother with
    | object => exact absurd rfl hid
    | root _ hc' hsuper' _ =>
      cases hc.symm.trans hc'
      rw [hsuper'] at hsuper
      cases hsuper
    | up _ hc' hsuper' hoffered' habove' =>
      cases hc.symm.trans hc'
      cases hsuper.symm.trans hsuper'
      rw [hoffered.unique hoffered', ih habove']

/-- The walk of a class begins with its own methods. -/
theorem MethodWalk.exists_append (hid : id ≠ .object) (hc : r.class? id = some c)
    {walk : List Method} (hwalk : r.MethodWalk id walk) : ∃ rest, walk = c.methods ++ rest := by
  cases hwalk with
  | object => exact absurd rfl hid
  | root _ hc' _ _ =>
    cases hc.symm.trans hc'
    exact ⟨_, rfl⟩
  | up _ hc' _ _ _ =>
    cases hc.symm.trans hc'
    exact ⟨_, List.append_assoc _ _ _⟩

/-- Every registered class has a walk, and the first of each signature on it are collected, bridges
apart. -/
theorem Reachable.exists_methodWalk (h : r.Reachable) (hc : r.class? id = some c) :
    ∃ walk, r.MethodWalk id walk ∧
      r.collectedMethods id = .ok (distinctFrom [] (walk.filter (!·.modifiers.isBridge))) := by
  have hr := h.wellFormed
  have hinfo : ∀ {id c}, r.class? id = some c → r.classInfo id = .ok c := fun hc => by
    rw [classInfo, hc]
  -- the walk is what the classes of the chain contribute one after the other
  have hchain : ∃ chain,
      ((r.superclassChain id).takeWhile (· ≠ .object)).mapM r.classInfo = .ok chain ∧
        r.MethodWalk id (chain.flatMap r.contributedMethods) := by
    refine hr.superclass_induction (P := fun id _ => ∃ chain,
      ((r.superclassChain id).takeWhile (· ≠ .object)).mapM r.classInfo = .ok chain ∧
        r.MethodWalk id (chain.flatMap r.contributedMethods)) ?root ?step hc
    case root =>
      intro id c hc hsuper
      rw [hr.superclassChain_of_superclass_eq_none hc hsuper]
      by_cases hid : id = .object
      · subst hid
        exact ⟨[], rfl, .object⟩
      · refine ⟨[c], ?_, ?_⟩
        · rw [List.takeWhile_cons_of_pos (by simpa using hid), List.mapM_cons, hinfo hc]
          rfl
        · rw [List.flatMap_singleton]
          exact .root hid hc hsuper (r.interfaceWalk_flatMap _)
    case step =>
      intro id c raw parent hc hsuper hparent ih
      obtain ⟨chain, hchain, hwalk⟩ := ih
      have hid : id ≠ .object := by
        rintro rfl
        rw [h.superclass_object hc] at hsuper
        cases hsuper
      refine ⟨c :: chain, ?_, ?_⟩
      · rw [hr.superclassChain_of_superclass hc hsuper,
          List.takeWhile_cons_of_pos (by simpa using hid), List.mapM_cons, hinfo hc, hchain]
        rfl
      · rw [List.flatMap_cons]
        exact .up hid hc hsuper (r.interfaceWalk_flatMap _) hwalk
  obtain ⟨chain, hchain, hwalk⟩ := hchain
  exact ⟨_, hwalk, collectedMethods_eq_ok_iff.2 ⟨chain, hchain, rfl⟩⟩

/-! ### What is collected -/

/-- `Object` declares no methods. -/
theorem Reachable.methods_object (h : r.Reachable) (hc : r.class? .object = some c) :
    c.methods = [] := by
  obtain ⟨c', hc', hmethods⟩ : ∃ c, Registry.initial.class? .object = some c ∧ c.methods = [] :=
    ⟨_, rfl, rfl⟩
  cases hc.symm.trans (h.extends_initial _ c' hc')
  exact hmethods

/-- On the walk of a class its own methods come first: if one of them passes a test, then the first
method that passes it is one of them. -/
theorem Reachable.exists_find?_of_mem_methods (h : r.Reachable) (hc : r.class? id = some c)
    {walk : List Method} (hwalk : r.MethodWalk id walk) {p : Method → Bool} {m : Method}
    (hm : m ∈ c.methods) (hbridge : m.modifiers.isBridge = false) (hp : p m = true) :
    ∃ k ∈ c.methods, k.modifiers.isBridge = false ∧ p k = true ∧
      (walk.filter (!·.modifiers.isBridge)).find? p = some k := by
  have hid : id ≠ .object := by
    rintro rfl
    rw [h.methods_object hc] at hm
    cases hm
  obtain ⟨rest, rfl⟩ := hwalk.exists_append hid hc
  have hown : m ∈ c.methods.filter (!·.modifiers.isBridge) :=
    List.mem_filter.2 ⟨hm, by simp [hbridge]⟩
  obtain ⟨k, hfirst⟩ : ∃ k, (c.methods.filter (!·.modifiers.isBridge)).find? p = some k :=
    Option.isSome_iff_exists.1 (List.find?_isSome.2 ⟨m, hown, hp⟩)
  obtain ⟨hk, hkbridge⟩ := List.mem_filter.1 (List.mem_of_find?_eq_some hfirst)
  refine ⟨k, hk, by simpa using hkbridge, List.find?_some hfirst, ?_⟩
  rw [List.filter_append, List.find?_append, hfirst, Option.some_or]

/-- The methods of a registered class can be collected.  No two of them have the same signature,
each is one that the class has at its disposal, and each that it has at its disposal is represented
by its signature.  They are the first of their signatures on the walk of the class, in the order of
the walk; so a method that the class declares itself gives way only to one that the class declares
as well. -/
theorem collectedMethods_first (h : r.Reachable) (hc : r.class? id = some c) :
    ∃ methods walk, r.collectedMethods id = .ok methods ∧
      (∀ other, r.MethodWalk id other ↔ other = walk) ∧
      (methods.map Method.signature).Nodup ∧
      (∀ m ∈ methods, r.Collects id m) ∧
      (∀ m, r.Collects id m → ∃ m' ∈ methods, m'.signature = m.signature) ∧
      methods.Sublist walk ∧
      (∀ m, m ∈ methods ↔
        (walk.filter (!·.modifiers.isBridge)).find? (·.signature = m.signature) = some m) ∧
      ∀ m ∈ c.methods, m.modifiers.isBridge = false →
        ∃ m' ∈ c.methods, m' ∈ methods ∧ m'.signature = m.signature := by
  obtain ⟨walk, hwalk, hmethods⟩ := h.exists_methodWalk hc
  obtain ⟨hcollects, hrepresented⟩ := h.mem_collectedMethods hc hmethods
  have hmem : ∀ m, m ∈ distinctFrom [] (walk.filter (!·.modifiers.isBridge)) ↔
      (walk.filter (!·.modifiers.isBridge)).find? (·.signature = m.signature) = some m := by
    intro m
    rw [mem_distinctFrom_iff, and_iff_right List.not_mem_nil]
  refine ⟨_, walk, hmethods, fun other => ⟨hwalk.unique, fun heq => heq ▸ hwalk⟩,
    nodup_map_signature_of_collectedMethods hmethods, hcollects, hrepresented,
    distinctFrom_sublist.trans List.filter_sublist, hmem, ?_⟩
  intro m hm hbridge
  obtain ⟨k, hk, -, hsame, hfirst⟩ := h.exists_find?_of_mem_methods hc hwalk
    (p := (·.signature = m.signature)) hm hbridge (by simp)
  have hsignature : k.signature = m.signature := by simpa using hsame
  rw [← hsignature] at hfirst
  exact ⟨k, hk, (hmem k).2 hfirst, hsignature⟩

/-- The drafts of two labelled interfaces, of which the second extends the first one, of a class
with a bridge in the place of the label, and of one that extends it and names both interfaces. -/
def stockDrafts : List ClassDraft :=
  [labelling (.ofKind ⟨7⟩ "Labelled" .interface) "base",
    labelling ((ClassDraft.ofKind ⟨8⟩ "Relabelled" .interface).withInterface (.ofClass ⟨7⟩))
      "derived",
    (((ClassDraft.ofKind ⟨9⟩ "Stock" .ordinary).withInterface (.ofClass ⟨7⟩)).withMethod
      { MethodDraft.named "getLabel" with returnType := .ofClass ⟨1⟩ }.asBridge).withMethod
      (.named "count"),
    (((ClassDraft.ofKind ⟨10⟩ "Item" .ordinary).withSuperclass (.ofClass ⟨9⟩)).withInterface
      (.ofClass ⟨8⟩)).withInterface (.ofClass ⟨7⟩)]

/-- In their registry the label of the last class is the one of the interface that it names first,
and of its superclass only the method that is no bridge is collected, behind it. -/
theorem stockDrafts_collectedMethods :
    let r := (definitionCalls stockDrafts).foldl after initial
    r.Reachable ∧ ∃ methods walk, r.collectedMethods ⟨10⟩ = .ok methods ∧
      methods.map (·.id) = [⟨⟨8⟩, .method, 0⟩, ⟨⟨9⟩, .method, 1⟩] ∧ r.MethodWalk ⟨10⟩ walk ∧
      methods.Sublist walk ∧ ∀ m ∈ methods, r.Collects ⟨10⟩ m := by
  intro r
  have h : r.Reachable := reachable_definitionCalls (by decide)
  obtain ⟨c, hc⟩ : ∃ c, r.class? ⟨10⟩ = some c :=
    Option.isSome_iff_exists.1 (by decide +kernel)
  obtain ⟨methods, walk, hmethods, hwalk, -, hcollects, -, hsublist, -, -⟩ :=
    collectedMethods_first h hc
  have hids : (r.collectedMethods ⟨10⟩).toOption.map (·.map (·.id)) =
      some [⟨⟨8⟩, .method, 0⟩, ⟨⟨9⟩, .method, 1⟩] := by decide +kernel
  rw [hmethods] at hids
  refine ⟨h, methods, walk, hmethods, ?_, (hwalk walk).2 rfl, hsublist, hcollects⟩
  simpa [Except.toOption] using hids

end Introspection.Registry
