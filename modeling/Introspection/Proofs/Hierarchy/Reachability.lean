import Introspection.Hierarchy.Subtyping
import Mathlib.Logic.Relation

/-!
# Reachability in a hierarchy

`Reaches` is the declarative side of the traversal: one class is reached from another along chosen
edges of the declarations.  `mem_preorder_iff` says that the traversal lists exactly the classes
that are reached, and `isSubclass_iff` draws the consequence for the subclass test.

The traversal looks at nothing but what it reaches (`preorderFrom_congr`), so two tables that agree
there (`AgreeOn`) are traversed alike.  In a table without cycles the superclass chain is therefore
a recursion on the superclass (`preorder_superclass_eq_cons`).
-/

namespace Introspection.Hierarchy

variable {h h' : Hierarchy} {edges : Edges}

/-- The declaration of the first class leads to the second one. -/
def Edge (h : Hierarchy) (edges : Edges) (a b : ClassId) : Prop :=
  b ∈ edges.targets (h.declaration a)

/-- The second class is reached from the first one along the edges. -/
abbrev Reaches (h : Hierarchy) (edges : Edges) : ClassId → ClassId → Prop :=
  Relation.ReflTransGen (h.Edge edges)

/-- The first class is the second one, or inherits from it through superclasses and interfaces. -/
abbrev Inherits (h : Hierarchy) : ClassId → ClassId → Prop :=
  h.Reaches .parents

/-- No class inherits from itself by a chain of at least one step. -/
def Acyclic (h : Hierarchy) : Prop :=
  ∀ id, ¬ Relation.TransGen (h.Edge .parents) id id

/-- A measure of the classes that falls along every edge and stays below the size of the table. -/
structure Ranking (h : Hierarchy) where
  /-- The measure. -/
  rank : ClassId → Nat
  /-- Supertypes rank lower. -/
  lt_of_edge : ∀ {a b}, h.Edge .parents a b → rank b < rank a
  /-- A class with supertypes ranks below the size of the table. -/
  lt_length : ∀ {a b}, h.Edge .parents a b → rank a < h.declarations.length

/-- A table with a ranking has no cycles. -/
theorem Ranking.acyclic (ranking : h.Ranking) : h.Acyclic := by
  have hlt : ∀ {a b}, Relation.TransGen (h.Edge .parents) a b →
      ranking.rank b < ranking.rank a := by
    intro a b hpath
    induction hpath with
    | single hedge => exact ranking.lt_of_edge hedge
    | tail _ hedge ih => exact Nat.lt_trans (ranking.lt_of_edge hedge) ih
  intro id hcycle
  exact Nat.lt_irrefl _ (hlt hcycle)

/-! ### The traversal lists what is reached -/

/-- Whatever a traversal lists is reached from one of the pending classes. -/
theorem exists_reaches_of_mem_preorderFrom {visited pending : List ClassId} {id : ClassId}
    (hmem : id ∈ h.preorderFrom edges visited pending) :
    ∃ start ∈ pending, h.Reaches edges start id := by
  fun_induction preorderFrom h edges visited pending with
  | case1 => simp at hmem
  | case2 visited first pending hvisited ih =>
    obtain ⟨start, hstart, hreach⟩ := ih hmem
    exact ⟨start, List.mem_cons_of_mem _ hstart, hreach⟩
  | case3 visited first pending hvisited ih =>
    rcases List.mem_cons.1 hmem with rfl | hmem
    · exact ⟨id, List.mem_cons_self, .refl⟩
    · obtain ⟨start, hstart, hreach⟩ := ih hmem
      rcases List.mem_append.1 hstart with hedge | hpending
      · exact ⟨first, List.mem_cons_self, .head hedge hreach⟩
      · exact ⟨start, List.mem_cons_of_mem _ hpending, hreach⟩

/-- A traversal leaves no pending class out, unless it had been visited. -/
theorem mem_preorderFrom_of_mem_pending {visited pending : List ClassId} {id : ClassId}
    (hmem : id ∈ pending) : id ∈ visited ∨ id ∈ h.preorderFrom edges visited pending := by
  fun_induction preorderFrom h edges visited pending with
  | case1 => simp at hmem
  | case2 visited first pending hvisited ih =>
    rcases List.mem_cons.1 hmem with rfl | hmem
    · exact .inl hvisited
    · exact ih hmem
  | case3 visited first pending hvisited ih =>
    rcases List.mem_cons.1 hmem with rfl | hmem
    · exact .inr List.mem_cons_self
    · rcases ih (List.mem_append_right _ hmem) with hvis | hlisted
      · rcases List.mem_cons.1 hvis with rfl | hvis
        · exact .inr List.mem_cons_self
        · exact .inl hvis
      · exact .inr (List.mem_cons_of_mem _ hlisted)

/-- What a listed class leads to is listed as well, unless it had been visited. -/
theorem mem_preorderFrom_of_edge {visited pending : List ClassId} {id target : ClassId}
    (hmem : id ∈ h.preorderFrom edges visited pending) (hedge : h.Edge edges id target) :
    target ∈ visited ∨ target ∈ h.preorderFrom edges visited pending := by
  fun_induction preorderFrom h edges visited pending with
  | case1 => simp at hmem
  | case2 visited first pending hvisited ih => exact ih hmem
  | case3 visited first pending hvisited ih =>
    have hrest : target ∈ first :: visited ∨ target ∈ h.preorderFrom edges (first :: visited)
        (edges.targets (h.declaration first) ++ pending) := by
      rcases List.mem_cons.1 hmem with rfl | hmem
      · exact mem_preorderFrom_of_mem_pending (List.mem_append_left _ hedge)
      · exact ih hmem
    rcases hrest with hvis | hlisted
    · rcases List.mem_cons.1 hvis with rfl | hvis
      · exact .inr List.mem_cons_self
      · exact .inl hvis
    · exact .inr (List.mem_cons_of_mem _ hlisted)

/-- The traversal from a class lists exactly the classes that are reached from it. -/
theorem mem_preorder_iff {id other : ClassId} :
    other ∈ h.preorder edges id ↔ h.Reaches edges id other := by
  constructor
  · intro hmem
    obtain ⟨start, hstart, hreach⟩ := exists_reaches_of_mem_preorderFrom hmem
    rwa [List.mem_singleton.1 hstart] at hreach
  · intro hreach
    induction hreach with
    | refl => exact (mem_preorderFrom_of_mem_pending List.mem_cons_self).resolve_left (by simp)
    | tail _ hedge ih => exact (mem_preorderFrom_of_edge ih hedge).resolve_left (by simp)

/-- A traversal comes to a class from a pending one by edges of classes that it has listed
before. -/
theorem exists_reaches_of_preorderFrom_eq {visited pending before after : List ClassId}
    {id : ClassId} (hlisted : h.preorderFrom edges visited pending = before ++ id :: after) :
    ∃ start ∈ pending,
      Relation.ReflTransGen (fun a b => h.Edge edges a b ∧ a ∈ before) start id := by
  fun_induction preorderFrom h edges visited pending generalizing before with
  | case1 => simp at hlisted
  | case2 visited first pending hvisited ih =>
    obtain ⟨start, hstart, hpath⟩ := ih hlisted
    exact ⟨start, List.mem_cons_of_mem _ hstart, hpath⟩
  | case3 visited first pending hvisited ih =>
    cases before with
    | nil =>
      obtain rfl : first = id := (List.cons.inj hlisted).1
      exact ⟨first, List.mem_cons_self, .refl⟩
    | cons head before =>
      obtain ⟨rfl, hrest⟩ := List.cons.inj hlisted
      obtain ⟨start, hstart, hpath⟩ := ih hrest
      have hpath' : Relation.ReflTransGen
          (fun a b => h.Edge edges a b ∧ a ∈ first :: before) start id :=
        hpath.lift (fun id => id) fun _ _ hstep => ⟨hstep.1, List.mem_cons_of_mem _ hstep.2⟩
      rcases List.mem_append.1 hstart with hedge | hpending
      · exact ⟨first, List.mem_cons_self, .head ⟨hedge, List.mem_cons_self⟩ hpath'⟩
      · exact ⟨start, List.mem_cons_of_mem _ hpending, hpath'⟩

/-- The subclass test answers for inheritance, and holds above everything for `Object`. -/
theorem isSubclass_iff {sub sup : ClassId} :
    h.isSubclass sub sup = true ↔ sup = .object ∨ h.Inherits sub sup := by
  simp only [isSubclass, Bool.or_eq_true, beq_iff_eq, List.contains_iff_mem, mem_preorder_iff]
  constructor
  · rintro ((rfl | hobject) | hreach)
    · exact .inr .refl
    · exact .inl hobject
    · exact .inr hreach
  · rintro (hobject | hreach)
    · exact .inl (.inr hobject)
    · exact .inr hreach

/-! ### The traversal looks at nothing else -/

/-- On a set of classes that is closed under the edges, a traversal depends on the declarations of
those classes and on which of them have been visited, and on nothing else. -/
theorem preorderFrom_congr {P : ClassId → Prop}
    (hdecl : ∀ id, P id → h'.declaration id = h.declaration id)
    (hclosed : ∀ id target, P id → h.Edge edges id target → P target)
    {visited visited' pending : List ClassId} (hpending : ∀ id ∈ pending, P id)
    (hvisited : ∀ id, P id → (id ∈ visited' ↔ id ∈ visited)) :
    h'.preorderFrom edges visited' pending = h.preorderFrom edges visited pending := by
  fun_induction preorderFrom h edges visited pending generalizing visited' with
  | case1 => simp [preorderFrom]
  | case2 visited first pending hmem ih =>
    have hfirst : first ∈ visited' := (hvisited first (hpending first List.mem_cons_self)).2 hmem
    rw [preorderFrom, if_pos hfirst]
    exact ih (fun id hid => hpending id (List.mem_cons_of_mem _ hid)) hvisited
  | case3 visited first pending hmem ih =>
    have hP : P first := hpending first List.mem_cons_self
    have hfirst : first ∉ visited' := fun hin => hmem ((hvisited first hP).1 hin)
    rw [preorderFrom, if_neg hfirst, hdecl first hP]
    congr 1
    apply ih
    · intro id hid
      rcases List.mem_append.1 hid with hedge | hin
      · exact hclosed first id hP hedge
      · exact hpending id (List.mem_cons_of_mem _ hin)
    · intro id hid
      simp only [List.mem_cons, hvisited id hid]

/-- Two tables that agree on all that is reached from a class are traversed alike from there. -/
theorem preorder_congr {id : ClassId}
    (hdecl : ∀ other, h.Reaches edges id other → h'.declaration other = h.declaration other) :
    h'.preorder edges id = h.preorder edges id := by
  refine preorderFrom_congr (P := h.Reaches edges id) hdecl ?_ ?_ (fun _ _ => Iff.rfl)
  · intro a b ha hedge
    exact ha.tail hedge
  · intro other hother
    rw [List.mem_singleton.1 hother]

/-! ### Tables that agree -/

/-- Both tables declare the same of some classes, and all supertypes of these are among them. -/
structure AgreeOn (h h' : Hierarchy) (P : ClassId → Prop) : Prop where
  /-- The declarations of these classes are the same. -/
  declaration_eq : ∀ {id}, P id → h'.declaration id = h.declaration id
  /-- The supertypes of these classes are among them. -/
  closed : ∀ {id parent}, P id → h.Edge .parents id parent → P parent

/-- What one of the classes inherits from is among them. -/
theorem AgreeOn.of_inherits {P : ClassId → Prop} (hagree : h.AgreeOn h' P) {id sup : ClassId}
    (hid : P id) (hinherits : h.Inherits id sup) : P sup := by
  induction hinherits with
  | refl => exact hid
  | tail _ hedge ih => exact hagree.closed ih hedge

/-- Where edges lead to parents alone, one of the classes is traversed alike in both tables. -/
theorem AgreeOn.preorder_eq {P : ClassId → Prop} (hagree : h.AgreeOn h' P)
    (hedges : ∀ {a b}, h.Edge edges a b → h.Edge .parents a b) {id : ClassId} (hid : P id) :
    h'.preorder edges id = h.preorder edges id := by
  refine preorder_congr fun other hreach => ?_
  have hinherits : h.Inherits id other := hreach.lift (fun id => id) fun _ _ => hedges
  exact hagree.declaration_eq (hagree.of_inherits hid hinherits)

/-- One of the classes is a subclass of the same classes in both tables. -/
theorem AgreeOn.isSubclass_eq {P : ClassId → Prop} (hagree : h.AgreeOn h' P) {sub : ClassId}
    (hsub : P sub) (sup : ClassId) : h'.isSubclass sub sup = h.isSubclass sub sup := by
  rw [isSubclass, isSubclass, hagree.preorder_eq (fun hedge => hedge) hsub]

/-! ### Superclass chains -/

/-- The superclass is one of the parents. -/
theorem edge_parents_of_edge_superclass {a b : ClassId} (hedge : h.Edge .superclass a b) :
    h.Edge .parents a b :=
  List.mem_append_left _ hedge

/-- An interface is one of the parents. -/
theorem edge_parents_of_edge_interfaces {a b : ClassId} (hedge : h.Edge .interfaces a b) :
    h.Edge .parents a b :=
  List.mem_append_right _ hedge

/-- Without cycles the superclass chain of a class is the class, followed by the chain of its
superclass if it has one. -/
theorem preorder_superclass_eq_cons (hacyclic : h.Acyclic) (id : ClassId) :
    h.preorder .superclass id =
      id :: ((h.declaration id).rawSuperclass.toList.flatMap (h.preorder .superclass)) := by
  have hhead : h.preorder .superclass id =
      id :: h.preorderFrom .superclass [id] (h.declaration id).rawSuperclass.toList := by
    rw [preorder, preorderFrom, if_neg List.not_mem_nil]
    simp [Edges.superclass]
  rw [hhead]
  congr 1
  cases hsuper : (h.declaration id).rawSuperclass with
  | none => simp [preorderFrom]
  | some parent =>
    have hedge : h.Edge .parents id parent :=
      edge_parents_of_edge_superclass (by simp [Edge, Edges.superclass, hsuper])
    -- `id` counts as visited here, but nothing above its superclass leads back to it
    have hnot : ∀ other, h.Reaches .superclass parent other → other ≠ id := by
      rintro other hreach rfl
      have hinherits : h.Inherits parent other :=
        hreach.lift (fun id => id) fun _ _ => edge_parents_of_edge_superclass
      exact hacyclic other (.head' hedge hinherits)
    simp only [Option.toList_some, List.flatMap_cons, List.flatMap_nil, List.append_nil]
    refine preorderFrom_congr (P := h.Reaches .superclass parent) (fun _ _ => rfl)
      (fun a b ha hb => ha.tail hb) (fun other hother => ?_) (fun other hother => ?_)
    · rw [List.mem_singleton.1 hother]
    · simp [hnot other hother]

end Introspection.Hierarchy
