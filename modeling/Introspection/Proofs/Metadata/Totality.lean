import Introspection.Proofs.Metadata.Origin
import Introspection.Proofs.Resolution.Termination

/-!
# Metadata can always be built

In a reachable registry the metadata of a class can be built whenever the class is registered, and
the one error there is says that it is not (`Metadata.ofClass_total`).

Two parts of the construction climb the hierarchy without keeping account of where they have been:
the loop over the superclasses and the resolver.  They come to an end because the hierarchy has no
cycles.  For the loop this is `Registry.Climbs`, a climb in finitely many steps, and for the
resolver it is that no bound on its steps is ever met (`Hierarchy.Ranking.exists_image_eq`).  All
other traversals visit each class once.
-/

namespace Introspection

namespace Registry

variable {r : Registry}

/-- The climb from a class to its superclass, and so on as long as there is one, lists these classes
and ends. -/
inductive Climbs (r : Registry) : ClassId → List ClassId → Prop where
  /-- The climb ends at a class without a superclass, and at a place without a class. -/
  | root {id : ClassId} (htop : (r.hierarchy.declaration id).rawSuperclass = none) :
    Climbs r id [id]
  /-- The climb goes on from the superclass. -/
  | up {id parent : ClassId} {chain : List ClassId}
    (hsuper : (r.hierarchy.declaration id).rawSuperclass = some parent)
    (hrest : Climbs r parent chain) : Climbs r id (id :: chain)

/-- From every place the climb ends, and it lists the superclass chain. -/
theorem WellFormed.climbs (hr : r.WellFormed) (id : ClassId) :
    r.Climbs id (r.superclassChain id) := by
  obtain ⟨ranking⟩ := hr.exists_ranking
  induction hn : ranking.rank id using Nat.strongRecOn generalizing id with
  | ind n ih =>
    rw [superclassChain, Hierarchy.preorder_superclass_eq_cons hr.acyclic]
    cases hsuper : (r.hierarchy.declaration id).rawSuperclass with
    | none => exact .root hsuper
    | some parent =>
      have hedge : r.hierarchy.Edge .parents id parent :=
        List.mem_append_left _ (Option.mem_toList.2 hsuper)
      have hlower : ranking.rank parent < n := hn ▸ ranking.lt_of_edge hedge
      have hrest : r.Climbs parent (r.superclassChain parent) := ih _ hlower parent rfl
      rw [Option.toList_some, List.flatMap_cons, List.flatMap_nil, List.append_nil]
      exact .up hsuper hrest

end Registry

namespace Metadata

/-- In every reachable registry the metadata of every registered class can be built, whatever types,
names and hierarchies the classes use, and for an id that is not registered, be it reserved or not,
the error is that this id is unknown.  The climb over the superclasses ends, and so does the
resolver for every variable that may be met, whatever class is taken for the declaring one: the
bound on its steps does not matter. -/
theorem ofClass_total {r : Registry} (hr : r.Reachable) (id : ClassId) :
    (∀ c, r.class? id = some c → ∃ m, ofClass r id = .ok m) ∧
    (r.class? id = none → ofClass r id = .error (.unknownClass id)) ∧
    r.Climbs id (r.superclassChain id) ∧
    ∀ declaring v bounds, ∃ ty,
      r.hierarchy.image (.ofClass id) declaring v bounds = .ok ty ∧
        ∀ fuel, r.hierarchy.declarations.length < fuel →
          r.hierarchy.imageWithin declaring v bounds fuel (.ofClass id) = some ty := by
  have hwell : r.WellFormed := hr.wellFormed
  obtain ⟨ranking⟩ := hwell.exists_ranking
  refine ⟨fun c hc => exists_ofClass_eq_ok hwell hc, fun hnone => ?_, hwell.climbs id,
    fun declaring v bounds => ranking.exists_image_eq declaring v bounds rfl⟩
  have hinfo : r.classInfo id = .error (.unknownClass id) := by
    rw [Registry.classInfo, hnone]
  rw [ofClass, hinfo]
  rfl

/-- A class whose members use types from nowhere: an id that is never registered, a variable of
another class and one of a method, a wildcard and an array. -/
def oddDraft : ClassDraft :=
  (((ClassDraft.ofKind ⟨8⟩ "Odd" .ordinary).withField
    (.named "ghost" (.parameterized ⟨7⟩ [.var ⟨"T", .classOwner ⟨5⟩⟩ []]))).withMethod
    { MethodDraft.named "getAll" with
      returnType := .genericArray (.var ⟨"M", .methodOwner ⟨8⟩ "getAll"⟩ []) }).withMethod
    { MethodDraft.named "is" with returnType := .extending (.ofClass ⟨99⟩) }

/-- The calls that register the class, with an id that is reserved before and never registered. -/
def oddCalls : List RegistryCall :=
  [.reserve "Ghost" .ordinary, .reserve "Odd" .ordinary, .register oddDraft]

/-- The metadata of the odd class can be built, and that of the reserved id cannot; the variable of
another class is resolved in at most ten steps. -/
theorem oddCalls_total :
    let r := oddCalls.foldl Registry.after .initial
    (∃ m, ofClass r ⟨8⟩ = .ok m) ∧ ofClass r ⟨7⟩ = .error (.unknownClass ⟨7⟩) ∧
      r.Climbs ⟨8⟩ [⟨8⟩, .object] ∧
        ∃ ty, r.hierarchy.imageWithin ⟨8⟩ ⟨"T", .classOwner ⟨5⟩⟩ [] 10 (.ofClass ⟨8⟩) =
          some ty := by
  intro r
  have hreachable : r.Reachable := Registry.Reachable.initial.foldl (by decide)
  have hregistered : (r.class? ⟨8⟩).isSome = true := by decide +kernel
  have hreserved : (r.class? ⟨7⟩).isNone = true := by decide +kernel
  have hchain : r.superclassChain ⟨8⟩ = [⟨8⟩, .object] := by decide +kernel
  have hlength : r.hierarchy.declarations.length < 10 := by decide +kernel
  obtain ⟨c, hc⟩ := Option.isSome_iff_exists.1 hregistered
  obtain ⟨hbuilt, -, hclimbs, himage⟩ := ofClass_total hreachable ⟨8⟩
  obtain ⟨ty, -, hty⟩ := himage ⟨8⟩ ⟨"T", .classOwner ⟨5⟩⟩ []
  have hunknown : ofClass r ⟨7⟩ = .error (.unknownClass ⟨7⟩) :=
    (ofClass_total hreachable ⟨7⟩).2.1 (Option.isNone_iff_eq_none.1 hreserved)
  exact ⟨hbuilt c hc, hunknown, hchain ▸ hclimbs, ty, hty 10 hlength⟩

end Metadata

end Introspection
