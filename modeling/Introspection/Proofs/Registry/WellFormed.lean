import Introspection.Proofs.Data.Except
import Introspection.Proofs.Hierarchy.Reachability
import Introspection.Proofs.Registry.Reachable

/-!
# Well-formed registries

`Registry.WellFormed` is the invariant of the registry: the index of names and the places agree,
the written supertypes are registered and of the right kind, and the classes can be ranked so that
supertypes rank lower.  The rank is the number of classes registered before: an id is no rank,
since places are filled in any order.

`WellFormed.register` and `WellFormed.reserve` say that the calls preserve the invariant, and
`Reachable.wellFormed` that it holds of every reachable registry.  What follows from it for the
hierarchy is a `Hierarchy.Ranking` and the end of every superclass chain.
-/

namespace Introspection.Registry

variable {r r' : Registry} {d : ClassDraft}

/-- Whether a draft may stand without a superclass: that of an interface may, and that of
`Object`. -/
def RootedDraft (d : ClassDraft) : Prop :=
  d.superclass = none → d.isInterface = true ∨ d.id = .object

/-- The invariant of a registry. -/
structure WellFormed (r : Registry) : Prop where
  /-- A class knows its place. -/
  class_id : ∀ {id c}, r.class? id = some c → c.id = id
  /-- The index of names tells where the class of a name is. -/
  find?_iff : ∀ {name id}, r.find? name = some id ↔ ∃ c, r.class? id = some c ∧ c.name = name
  /-- There are as many names as classes. -/
  size_eq : r.size = r.registered.length
  /-- A superclass belongs to a class that is no interface, and may be extended. -/
  superclass : ∀ {id c}, r.class? id = some c →
    ∀ ty ∈ c.superclass, c.isInterface = false ∧ r.AcceptsSuperclass ty
  /-- Interfaces are registered as such. -/
  interfaces : ∀ {id c}, r.class? id = some c → ∀ ty ∈ c.interfaces, r.AcceptsInterface ty
  /-- A class without a superclass is an interface or `Object`. -/
  rooted : ∀ {id c}, r.class? id = some c → c.superclass = none →
    c.isInterface = true ∨ id = .object
  /-- Classes can be ranked below the number of classes, and supertypes rank lower. -/
  ranked : ∃ rank : ClassId → Nat, ∀ {id c}, r.class? id = some c →
    rank id < r.size ∧ ∀ parent ∈ c.declaration.parents, rank parent < rank id

/-! ### Supertypes -/

/-- The parents of a declaration are the classes behind its written supertypes. -/
theorem mem_parents_iff {decl : Declaration} {id : ClassId} :
    id ∈ decl.parents ↔ ∃ ty ∈ decl.supertypes, ty.rawClass? = some id := by
  simp only [Declaration.parents, Declaration.rawSuperclass, Declaration.rawInterfaces,
    Declaration.supertypes, List.mem_append, Option.mem_toList, List.mem_filterMap, or_and_right,
    exists_or, Option.bind_eq_some_iff]

/-- A type that may be extended names a registered class. -/
theorem AcceptsSuperclass.exists_class {ty : Ty} (h : r.AcceptsSuperclass ty) :
    ∃ raw parent, ty.rawClass? = some raw ∧ r.class? raw = some parent := by
  obtain ⟨raw, parent, hraw, hparent, -⟩ := h
  exact ⟨raw, parent, hraw, hparent⟩

/-- A type that names an interface names a registered class. -/
theorem AcceptsInterface.exists_class {ty : Ty} (h : r.AcceptsInterface ty) :
    ∃ raw parent, ty.rawClass? = some raw ∧ r.class? raw = some parent := by
  obtain ⟨raw, parent, hraw, hparent, -⟩ := h
  exact ⟨raw, parent, hraw, hparent⟩

/-- The class that a class names as its superclass, if it is registered. -/
def superclassInfo? (r : Registry) (c : ClassInfo) : Option ClassInfo :=
  (c.superclass.bind Ty.rawClass?).bind r.class?

/-- A class whose superclass is registered has the same superclass in a later registry. -/
theorem Extends.superclassInfo?_eq (hextends : r.Extends r') {c : ClassInfo}
    (hsuperclass : ∀ ty ∈ c.superclass, r.AcceptsSuperclass ty) :
    r'.superclassInfo? c = r.superclassInfo? c := by
  unfold superclassInfo?
  cases hsuper : c.superclass with
  | none => rfl
  | some ty =>
    obtain ⟨raw, parent, hraw, hparent⟩ := (hsuperclass ty hsuper).exists_class
    simp only [Option.bind_some, hraw, hparent, hextends raw parent hparent]

/-- The written supertypes of a registered class name registered classes. -/
theorem WellFormed.exists_class_of_mem_supertypes (hr : r.WellFormed) {id : ClassId}
    {c : ClassInfo} (hc : r.class? id = some c) {ty : Ty} (hty : ty ∈ c.declaration.supertypes) :
    ∃ raw parent, ty.rawClass? = some raw ∧ r.class? raw = some parent := by
  rcases List.mem_append.1 hty with hsuper | hinterface
  · exact (hr.superclass hc ty (Option.mem_toList.1 hsuper)).2.exists_class
  · exact (hr.interfaces hc ty hinterface).exists_class

/-- The parents of a registered class are registered. -/
theorem WellFormed.exists_class_of_mem_parents (hr : r.WellFormed) {id parent : ClassId}
    {c : ClassInfo} (hc : r.class? id = some c) (hparent : parent ∈ c.declaration.parents) :
    ∃ p, r.class? parent = some p := by
  obtain ⟨ty, hty, hraw⟩ := mem_parents_iff.1 hparent
  obtain ⟨raw, p, hraw', hp⟩ := hr.exists_class_of_mem_supertypes hc hty
  rw [hraw] at hraw'
  cases hraw'
  exact ⟨p, hp⟩

/-- The parents of a draft that has passed the checks are registered. -/
theorem exists_class_of_hierarchyFault?_eq_none (hfault : r.hierarchyFault? d = none)
    {parent : ClassId} (hparent : parent ∈ (r.define d).declaration.parents) :
    ∃ p, r.class? parent = some p := by
  obtain ⟨hsuperclass, hinterfaces⟩ := hierarchyFault?_eq_none_iff.1 hfault
  obtain ⟨ty, hty, hraw⟩ := mem_parents_iff.1 hparent
  have haccepted : ∃ raw p, ty.rawClass? = some raw ∧ r.class? raw = some p := by
    rcases List.mem_append.1 hty with hsuper | hinterface
    · exact (hsuperclass ty (Option.mem_toList.1 hsuper)).2.exists_class
    · exact (hinterfaces ty hinterface).exists_class
  obtain ⟨raw, p, hraw', hp⟩ := haccepted
  rw [hraw] at hraw'
  cases hraw'
  exact ⟨p, hp⟩

/-! ### Preservation -/

/-- A new name is one entry more. -/
theorem size_install_of_find?_eq_none (hname : r.find? d.name = none) :
    (r.install d).size = r.size + 1 :=
  Assoc.size_insert_of_find?_eq_none hname

/-- A free place that is filled is one class more. -/
theorem length_registered_install (hslot : r.slots[d.id.index]? = some none) :
    (r.install d).registered.length = r.registered.length + 1 := by
  obtain ⟨hlt, hnone⟩ := List.getElem?_eq_some_iff.1 hslot
  simp only [registered, List.length_filterMap_eq_countP, install, id_eq]
  rw [List.countP_set hlt]
  simp [hnone]

/-- A registration puts the name into the index together with the class into its place. -/
theorem WellFormed.find?_install_iff (hr : r.WellFormed)
    (hslot : r.slots[d.id.index]? = some none) (hname : r.find? d.name = none) {name : String}
    {id : ClassId} : (r.install d).find? name = some id ↔
      ∃ c, (r.install d).class? id = some c ∧ c.name = name := by
  have hlt := lt_length_of_slot hslot
  have hfind : (r.install d).find? name = if name = d.name then some d.id else r.find? name :=
    Assoc.find?_insert r.names d.name name d.id
  rw [hfind]
  constructor
  · intro hsome
    split at hsome
    · next heq =>
      cases hsome
      exact ⟨r.define d, by rw [class?_install r d d.id hlt, if_pos rfl], heq.symm⟩
    · obtain ⟨c, hc, hcname⟩ := hr.find?_iff.1 hsome
      exact ⟨c, extends_install hslot id c hc, hcname⟩
  · rintro ⟨c, hc, rfl⟩
    rcases class?_install_cases hlt hc with ⟨rfl, rfl⟩ | ⟨-, hc⟩
    · exact if_pos rfl
    · have hold : r.find? c.name = some id := hr.find?_iff.2 ⟨c, hc, rfl⟩
      rw [if_neg, hold]
      intro heq
      rw [heq, hname] at hold
      cases hold

/-- A new class ranks above all others, and no class registered before mentions it. -/
theorem WellFormed.exists_rank_install (hr : r.WellFormed)
    (hslot : r.slots[d.id.index]? = some none) (hname : r.find? d.name = none)
    (hfault : r.hierarchyFault? d = none) :
    ∃ rank : ClassId → Nat, ∀ {id c}, (r.install d).class? id = some c →
      rank id < (r.install d).size ∧ ∀ parent ∈ c.declaration.parents, rank parent < rank id := by
  obtain ⟨rank, hrank⟩ := hr.ranked
  have hsize := size_install_of_find?_eq_none hname
  have hold : ∀ {parent p}, r.class? parent = some p → parent ≠ d.id := by
    rintro parent p hp rfl
    rw [class?_eq_none_of_slot hslot] at hp
    cases hp
  refine ⟨fun id => if id = d.id then r.size else rank id, ?_⟩
  intro id c hc
  rcases class?_install_cases (lt_length_of_slot hslot) hc with ⟨rfl, rfl⟩ | ⟨hne, hc⟩
  · refine ⟨by simp [hsize], fun parent hparent => ?_⟩
    obtain ⟨p, hp⟩ := exists_class_of_hierarchyFault?_eq_none hfault hparent
    simpa [hold hp] using (hrank hp).1
  · refine ⟨?_, fun parent hparent => ?_⟩
    · have hlt := (hrank hc).1
      simp only [hne, if_false, hsize]
      omega
    · obtain ⟨p, hp⟩ := hr.exists_class_of_mem_parents hc hparent
      simpa [hold hp, hne] using (hrank hc).2 parent hparent

/-- A registration preserves the invariant. -/
theorem WellFormed.install (hr : r.WellFormed) (hrooted : RootedDraft d)
    (hslot : r.slots[d.id.index]? = some none) (hname : r.find? d.name = none)
    (hfault : r.hierarchyFault? d = none) : (r.install d).WellFormed := by
  obtain ⟨hsuperclass, hinterfaces⟩ := hierarchyFault?_eq_none_iff.1 hfault
  have hextends : r.Extends (r.install d) := extends_install hslot
  have hcases := fun {id c} => @class?_install_cases r d id c (lt_length_of_slot hslot)
  refine ⟨?class_id, ?find?_iff, ?size_eq, ?superclass, ?interfaces, ?rooted, ?ranked⟩
  case class_id =>
    intro id c hc
    rcases hcases hc with ⟨rfl, rfl⟩ | ⟨-, hc⟩
    · rfl
    · exact hr.class_id hc
  case find?_iff => exact hr.find?_install_iff hslot hname
  case size_eq =>
    rw [size_install_of_find?_eq_none hname, length_registered_install hslot, hr.size_eq]
  case superclass =>
    intro id c hc ty hty
    rcases hcases hc with ⟨rfl, rfl⟩ | ⟨-, hc⟩
    · exact ⟨(hsuperclass ty hty).1, (hsuperclass ty hty).2.mono hextends⟩
    · exact ⟨(hr.superclass hc ty hty).1, (hr.superclass hc ty hty).2.mono hextends⟩
  case interfaces =>
    intro id c hc ty hty
    rcases hcases hc with ⟨rfl, rfl⟩ | ⟨-, hc⟩
    · exact (hinterfaces ty hty).mono hextends
    · exact (hr.interfaces hc ty hty).mono hextends
  case rooted =>
    intro id c hc hnone
    rcases hcases hc with ⟨rfl, rfl⟩ | ⟨-, hc⟩
    · exact hrooted hnone
    · exact hr.rooted hc hnone
  case ranked => exact hr.exists_rank_install hslot hname hfault

/-- Making room for a class preserves the invariant. -/
theorem WellFormed.reserve (hr : r.WellFormed) (name : String) (kind : ClassKind) :
    (r.reserve name kind).2.WellFormed := by
  have hclass : ∀ id, (r.reserve name kind).2.class? id = r.class? id :=
    fun id => class?_reserve r name kind id
  have hextends : r.Extends (r.reserve name kind).2 := fun id c hc => (hclass id).trans hc
  refine ⟨?class_id, ?find?_iff, ?size_eq, ?superclass, ?interfaces, ?rooted, ?ranked⟩
  case class_id => exact fun hc => hr.class_id (hclass _ ▸ hc)
  case find?_iff =>
    intro name' id
    rw [hclass]
    exact hr.find?_iff
  case size_eq =>
    have hregistered : (r.reserve name kind).2.registered = r.registered := by
      simp [registered, Registry.reserve]
    rw [hregistered]
    exact hr.size_eq
  case superclass =>
    intro id c hc ty hty
    rw [hclass] at hc
    exact ⟨(hr.superclass hc ty hty).1, (hr.superclass hc ty hty).2.mono hextends⟩
  case interfaces =>
    intro id c hc ty hty
    rw [hclass] at hc
    exact (hr.interfaces hc ty hty).mono hextends
  case rooted => exact fun hc => hr.rooted (hclass _ ▸ hc)
  case ranked =>
    obtain ⟨rank, hrank⟩ := hr.ranked
    exact ⟨rank, fun hc => hrank (hclass _ ▸ hc)⟩

/-- A table of free places holds no class. -/
theorem class?_vacant (n : Nat) (id : ClassId) :
    (⟨List.replicate n none, .empty⟩ : Registry).class? id = none := by
  simp only [class?, List.getElem?_replicate]
  split <;> rfl

/-- The table without classes is well-formed. -/
theorem wellFormed_vacant (n : Nat) : WellFormed ⟨List.replicate n none, .empty⟩ := by
  have hnone := class?_vacant n
  refine ⟨?class_id, ?find?_iff, ?size_eq, ?superclass, ?interfaces, ?rooted, ?ranked⟩
  case find?_iff => simp [hnone, find?]
  case size_eq => simp [size, registered, Assoc.empty, Assoc.size]
  case ranked => exact ⟨fun _ => 0, fun hc => by simp [hnone] at hc⟩
  all_goals intro id c hc; simp [hnone] at hc

/-- A call that succeeds on a rooted draft preserves the invariant. -/
theorem WellFormed.register (hr : r.WellFormed) (hrooted : RootedDraft d)
    (hok : r.register d = .ok r') : r'.WellFormed := by
  obtain ⟨hslot, hname, hfault, rfl⟩ := register_eq_ok_iff.1 hok
  exact hr.install hrooted hslot hname hfault

/-! ### Reachable registries -/

/-- The first classes could have been registered one by one. -/
theorem foldlM_register_initialDrafts :
    initialDrafts.foldlM Registry.register ⟨List.replicate 7 none, .empty⟩ = .ok initial := by
  rfl

/-- Of the first classes `Object` alone has no superclass. -/
theorem rootedDraft_of_mem_initialDrafts : ∀ d ∈ initialDrafts, RootedDraft d := by
  simp [initialDrafts, RootedDraft, ClassDraft.ofKind, ClassDraft.asFinal, ClassDraft.asAbstract,
    ClassId.object]

/-- The registry of the first classes is well-formed. -/
theorem wellFormed_initial : initial.WellFormed := by
  refine Except.foldlM_eq_ok_induction foldlM_register_initialDrafts (wellFormed_vacant 7) ?_
  exact fun d hd r r' hr hregister =>
    hr.register (rootedDraft_of_mem_initialDrafts d hd) hregister

/-- Every reachable registry is well-formed. -/
theorem Reachable.wellFormed (h : r.Reachable) : r.WellFormed := by
  induction h with
  | initial => exact wellFormed_initial
  | @after r h call hcall ih =>
    cases call with
    | reserve name kind => exact ih.reserve name kind
    | register d =>
      have hrooted : RootedDraft d :=
        fun hnone => .inl (beq_iff_eq.2 (hcall.kind_of_superclass_eq_none hnone))
      cases hregister : r.register d with
      | error e => rwa [after_register_of_eq_error hregister]
      | ok r' =>
        rw [after_register_of_eq_ok hregister]
        exact ih.register hrooted hregister

/-- What holds of a table without classes, and is preserved when room is made for a class and when a
class is registered, holds of every reachable registry. -/
theorem Reachable.registration_induction {P : Registry → Prop}
    (vacant : P ⟨List.replicate 7 none, .empty⟩)
    (reserve : ∀ {r} name kind, r.WellFormed → P r → P (r.reserve name kind).2)
    (install : ∀ {r d}, r.WellFormed → P r → r.slots[d.id.index]? = some none →
      r.find? d.name = none → r.hierarchyFault? d = none → P (r.install d))
    (h : r.Reachable) : P r := by
  have hregister : ∀ {r r' : Registry} {d}, r.WellFormed → P r → r.register d = .ok r' → P r' := by
    intro r r' d hr hP hok
    obtain ⟨hslot, hname, hfault, rfl⟩ := register_eq_ok_iff.1 hok
    exact install hr hP hslot hname hfault
  induction h with
  | initial =>
    have hboth : Registry.initial.WellFormed ∧ P Registry.initial := by
      refine Except.foldlM_eq_ok_induction (P := fun r => r.WellFormed ∧ P r)
        foldlM_register_initialDrafts ⟨wellFormed_vacant 7, vacant⟩ ?_
      rintro d hd r r' ⟨hr, hP⟩ hok
      exact ⟨hr.register (rootedDraft_of_mem_initialDrafts d hd) hok, hregister hr hP hok⟩
    exact hboth.2
  | @after r h call hcall ih =>
    cases call with
    | reserve name kind => exact reserve name kind h.wellFormed ih
    | register d =>
      cases hok : r.register d with
      | error e => rwa [after_register_of_eq_error hok]
      | ok r' =>
        rw [after_register_of_eq_ok hok]
        exact hregister h.wellFormed ih hok

/-- Every reachable registry extends that of the first classes. -/
theorem Reachable.extends_initial (h : r.Reachable) : Registry.initial.Extends r := by
  induction h with
  | initial => exact fun _ _ hc => hc
  | @after r h call hcall ih => exact fun id c hc => extends_after r call id c (ih id c hc)

/-- `Object` has no type parameters. -/
theorem Reachable.params_object (h : r.Reachable) : r.hierarchy.params .object = [] := by
  obtain ⟨c, hc, hparams⟩ : ∃ c, Registry.initial.class? .object = some c ∧ c.params = [] :=
    ⟨_, rfl, rfl⟩
  rw [Hierarchy.params, declaration_hierarchy, h.extends_initial _ c hc]
  exact hparams

/-! ### The hierarchy -/

/-- The edges of a class are those of the registered one. -/
theorem edge_parents_iff {a b : ClassId} :
    r.hierarchy.Edge .parents a b ↔ ∃ c, r.class? a = some c ∧ b ∈ c.declaration.parents := by
  simp only [Hierarchy.Edge, Hierarchy.Edges.parents, declaration_hierarchy]
  cases r.class? a with
  | none => simp [declarationOf, Declaration.vacant, Declaration.parents, Declaration.rawSuperclass,
      Declaration.rawInterfaces]
  | some c => simp [declarationOf]

/-- No more classes are registered than there are places. -/
theorem WellFormed.size_le_length (hr : r.WellFormed) :
    r.size ≤ r.hierarchy.declarations.length := by
  rw [hr.size_eq, hierarchy, List.length_map]
  exact List.length_filterMap_le id r.slots

/-- The hierarchy of a well-formed registry has a ranking. -/
theorem WellFormed.exists_ranking (hr : r.WellFormed) : Nonempty r.hierarchy.Ranking := by
  obtain ⟨rank, hrank⟩ := hr.ranked
  refine ⟨⟨rank, ?_, ?_⟩⟩
  · intro a b hedge
    obtain ⟨c, hc, hparent⟩ := edge_parents_iff.1 hedge
    exact (hrank hc).2 b hparent
  · intro a b hedge
    obtain ⟨c, hc, -⟩ := edge_parents_iff.1 hedge
    exact Nat.lt_of_lt_of_le (hrank hc).1 hr.size_le_length

/-- No registered class inherits from itself. -/
theorem WellFormed.acyclic (hr : r.WellFormed) : r.hierarchy.Acyclic :=
  hr.exists_ranking.elim fun ranking => ranking.acyclic

/-- What is reached from a registered class along parents is registered. -/
theorem WellFormed.exists_class_of_inherits (hr : r.WellFormed) {id other : ClassId} {c : ClassInfo}
    (hc : r.class? id = some c) (hinherits : r.hierarchy.Inherits id other) :
    ∃ c', r.class? other = some c' := by
  induction hinherits with
  | refl => exact ⟨c, hc⟩
  | tail _ hedge ih =>
    obtain ⟨c', hc', hparent⟩ := edge_parents_iff.1 hedge
    exact hr.exists_class_of_mem_parents hc' hparent

/-- The superclass chain of a registered class is the class, followed by the chain of its
superclass if it has one. -/
theorem WellFormed.superclassChain_eq (hr : r.WellFormed) {id : ClassId} {c : ClassInfo}
    (hc : r.class? id = some c) :
    r.superclassChain id =
      id :: (c.superclass.bind Ty.rawClass?).toList.flatMap r.superclassChain := by
  have hdecl : (r.hierarchy.declaration id).rawSuperclass = c.superclass.bind Ty.rawClass? := by
    rw [declaration_hierarchy, hc]
    rfl
  rw [superclassChain, Hierarchy.preorder_superclass_eq_cons hr.acyclic, hdecl]
  rfl

/-- The superclass chain of a registered class that is no interface ends in `Object`. -/
theorem WellFormed.getLast?_superclassChain (hr : r.WellFormed) {id : ClassId} {c : ClassInfo}
    (hc : r.class? id = some c) (hkind : c.isInterface = false) :
    (r.superclassChain id).getLast? = some .object := by
  obtain ⟨rank, hrank⟩ := hr.ranked
  induction hn : rank id using Nat.strongRecOn generalizing id c with
  | ind n ih =>
    rw [hr.superclassChain_eq hc]
    cases hsuper : c.superclass with
    | none =>
      have hobject : id = .object := (hr.rooted hc hsuper).resolve_left (by simp [hkind])
      simp [hobject]
    | some ty =>
      obtain ⟨-, raw, parent, hraw, hparent, hparentKind, -⟩ := hr.superclass hc ty hsuper
      have hlt : rank raw < rank id := by
        apply (hrank hc).2
        have hmem : ty ∈ c.declaration.supertypes := by
          simp [Declaration.supertypes, ClassInfo.declaration, hsuper]
        exact mem_parents_iff.2 ⟨ty, hmem, hraw⟩
      have hlast := ih (rank raw) (hn ▸ hlt) hparent hparentKind rfl
      simp only [Option.bind_some, hraw, Option.toList_some, List.flatMap_cons, List.flatMap_nil,
        List.append_nil, List.getLast?_cons, hlast, Option.getD_some]

end Introspection.Registry
