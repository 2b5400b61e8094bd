import Introspection.Proofs.Registry.WellFormed

/-!
# Superclass chains

The superclass chain of a registered class is the class followed by the chain of its superclass
(`WellFormed.superclassChain_of_superclass`).  A class ranks above its superclass, so what passes
from the superclass to the class holds of every registered class
(`WellFormed.superclass_induction`).

In a reachable registry nothing comes after `Object` in a chain, so the classes before `Object` are
all classes of the chain but `Object` (`Reachable.mem_takeWhile_superclassChain_iff`).
-/

namespace Introspection.Registry

variable {r : Registry} {id owner : ClassId} {c : ClassInfo}

/-- What holds of classes without a superclass, and of every class whose superclass it holds of,
holds of all registered classes. -/
theorem WellFormed.superclass_induction (hr : r.WellFormed) {P : ClassId → ClassInfo → Prop}
    (root : ∀ {id c}, r.class? id = some c → c.superclass = none → P id c)
    (step : ∀ {id c raw parent}, r.class? id = some c → c.superclass.bind Ty.rawClass? = some raw →
      r.class? raw = some parent → P raw parent → P id c)
    (hc : r.class? id = some c) : P id c := by
  obtain ⟨rank, hrank⟩ := hr.ranked
  induction hn : rank id using Nat.strongRecOn generalizing id c with
  | ind n ih =>
    cases hsuper : c.superclass with
    | none => exact root hc hsuper
    | some ty =>
      obtain ⟨-, raw, parent, hraw, hparent, -⟩ := hr.superclass hc ty hsuper
      have hbind : c.superclass.bind Ty.rawClass? = some raw := by
        rw [hsuper, Option.bind_some, hraw]
      have hmem : raw ∈ c.declaration.parents :=
        List.mem_append_left _ (Option.mem_toList.2 hbind)
      have hlt : rank raw < n := hn ▸ (hrank hc).2 raw hmem
      exact step hc hbind hparent (ih (rank raw) hlt hparent rfl)

theorem WellFormed.superclassChain_of_superclass_eq_none (hr : r.WellFormed)
    (hc : r.class? id = some c) (hsuper : c.superclass = none) : r.superclassChain id = [id] := by
  rw [hr.superclassChain_eq hc, hsuper]
  rfl

/-- The chain of a class with a superclass goes on with the chain of the superclass. -/
theorem WellFormed.superclassChain_of_superclass (hr : r.WellFormed) (hc : r.class? id = some c)
    {raw : ClassId} (hsuper : c.superclass.bind Ty.rawClass? = some raw) :
    r.superclassChain id = id :: r.superclassChain raw := by
  rw [hr.superclassChain_eq hc, hsuper]
  simp

/-- The classes of a chain are those that are reached through superclasses. -/
theorem mem_superclassChain_iff :
    owner ∈ r.superclassChain id ↔ r.hierarchy.Reaches .superclass id owner :=
  Hierarchy.mem_preorder_iff

/-- All classes of the chain of a registered class are registered. -/
theorem WellFormed.exists_class_of_mem_superclassChain (hr : r.WellFormed)
    (hc : r.class? id = some c) (howner : owner ∈ r.superclassChain id) :
    ∃ c', r.class? owner = some c' := by
  refine hr.exists_class_of_inherits hc ?_
  exact (mem_superclassChain_iff.1 howner).lift (fun id => id) fun _ _ =>
    Hierarchy.edge_parents_of_edge_superclass

/-- `Object` inherits from nothing. -/
theorem Reachable.superclass_object (h : r.Reachable) (hc : r.class? .object = some c) :
    c.superclass = none := by
  obtain ⟨c', hc', hsuper⟩ : ∃ c, Registry.initial.class? .object = some c ∧
      c.superclass = none := ⟨_, rfl, rfl⟩
  cases hc.symm.trans (h.extends_initial _ c' hc')
  exact hsuper

/-- The classes of a chain before `Object` are its classes other than `Object`. -/
theorem Reachable.mem_takeWhile_superclassChain_iff (h : r.Reachable) (hc : r.class? id = some c) :
    owner ∈ (r.superclassChain id).takeWhile (· ≠ .object) ↔
      r.hierarchy.Reaches .superclass id owner ∧ owner ≠ .object := by
  have hr := h.wellFormed
  rw [← mem_superclassChain_iff]
  refine hr.superclass_induction (P := fun id _ =>
    owner ∈ (r.superclassChain id).takeWhile (· ≠ .object) ↔
      owner ∈ r.superclassChain id ∧ owner ≠ .object) ?root ?step hc
  case root =>
    intro id c hc hsuper
    rw [hr.superclassChain_of_superclass_eq_none hc hsuper]
    by_cases hobject : id = .object
    · simp [hobject]
    · simp only [List.takeWhile_cons, ne_eq, hobject, not_false_eq_true, decide_true, if_true,
        List.takeWhile_nil, List.mem_singleton]
      exact ⟨fun heq => ⟨heq, heq ▸ hobject⟩, fun heq => heq.1⟩
  case step =>
    intro id c raw parent hc hsuper hparent ih
    have hobject : id ≠ .object := by
      rintro rfl
      rw [h.superclass_object hc] at hsuper
      cases hsuper
    rw [hr.superclassChain_of_superclass hc hsuper,
      List.takeWhile_cons_of_pos (by simpa using hobject), List.mem_cons, List.mem_cons, ih]
    constructor
    · rintro (rfl | ⟨hmem, hne⟩)
      · exact ⟨.inl rfl, hobject⟩
      · exact ⟨.inr hmem, hne⟩
    · rintro ⟨rfl | hmem, hne⟩
      · exact .inl rfl
      · exact .inr ⟨hmem, hne⟩

/-- Looking registered classes up succeeds. -/
theorem exists_mapM_classInfo_eq_ok {ids : List ClassId}
    (hids : ∀ id ∈ ids, ∃ c, r.class? id = some c) :
    ∃ cs, ids.mapM r.classInfo = .ok cs := by
  refine Except.exists_mapM_eq_ok fun id hid => ?_
  obtain ⟨c, hc⟩ := hids id hid
  exact ⟨c, by rw [classInfo, hc]⟩

/-- What has been looked up are the registered classes. -/
theorem mem_mapM_classInfo_iff {ids : List ClassId} {cs : List ClassInfo}
    (hok : ids.mapM r.classInfo = .ok cs) :
    c ∈ cs ↔ ∃ id ∈ ids, r.class? id = some c := by
  constructor
  · intro hc
    obtain ⟨id, hid, hinfo⟩ := Except.exists_of_mem_mapM_eq_ok hok hc
    exact ⟨id, hid, class?_of_classInfo_eq_ok hinfo⟩
  · rintro ⟨id, hid, hc⟩
    obtain ⟨c', hc', hinfo⟩ := Except.exists_mem_of_mapM_eq_ok hok hid
    cases hc.symm.trans (class?_of_classInfo_eq_ok hinfo)
    exact hc'

end Introspection.Registry
