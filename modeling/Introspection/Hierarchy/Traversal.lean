import Introspection.Hierarchy.Basic

/-!
# Traversing a hierarchy

`Hierarchy.preorder` lists the classes that can be reached from one class along chosen edges, in
depth-first preorder and each of them once, whatever cycles or missing classes the table has.  With
all supertypes as edges it answers which classes a class inherits from, with the superclass alone it
gives the superclass chain, and with the interfaces alone the order in which interfaces are visited.

The traversal ends because every class it visits for the first time takes that class's edges, and
one unit more, out of the `remaining` edges of the table.
-/

namespace Introspection.Hierarchy

/-- The edges, and one unit for each class, of the classes from place `start` on that have not been
visited. -/
def remaining (edges : Declaration → List ClassId) (visited : List ClassId) :
    Nat → List Declaration → Nat
  | _, [] => 0
  | start, d :: ds =>
    (if ⟨start⟩ ∈ visited then 0 else (edges d).length + 1)
      + remaining edges visited (start + 1) ds

/-- A further visit leaves no more than before. -/
theorem remaining_cons_le (edges : Declaration → List ClassId) (visited : List ClassId)
    (id : ClassId) (start : Nat) (ds : List Declaration) :
    remaining edges (id :: visited) start ds ≤ remaining edges visited start ds := by
  induction ds generalizing start with
  | nil => simp [remaining]
  | cons d ds ih =>
    have := ih (start + 1)
    simp only [remaining, List.mem_cons]
    by_cases h : (⟨start⟩ : ClassId) ∈ visited
    · simp [h]; exact this
    · by_cases h' : (⟨start⟩ : ClassId) = id <;> simp [h, h'] <;> omega

/-- A first visit takes away the edges of the class and one unit. -/
theorem remaining_cons_of_not_mem (edges : Declaration → List ClassId) (visited : List ClassId)
    (id : ClassId) (hid : id ∉ visited) (start : Nat) (ds : List Declaration) (d : Declaration)
    (hstart : start ≤ id.index) (hd : ds[id.index - start]? = some d) :
    remaining edges (id :: visited) start ds + ((edges d).length + 1)
      ≤ remaining edges visited start ds := by
  induction ds generalizing start with
  | nil => simp at hd
  | cons e ds ih =>
    have hle := remaining_cons_le edges visited id (start + 1) ds
    simp only [remaining, List.mem_cons]
    by_cases heq : start = id.index
    · have hid' : (⟨start⟩ : ClassId) = id := by cases id; simp_all
      have hed : e = d := by simpa [heq] using hd
      subst hed
      rw [hid']
      simp [hid]
      omega
    · have hne : (⟨start⟩ : ClassId) ≠ id := by
        intro h
        apply heq
        rw [← h]
      have hsub : id.index - start = (id.index - (start + 1)) + 1 := by omega
      have hd' : ds[id.index - (start + 1)]? = some d := by
        rw [hsub, List.getElem?_cons_succ] at hd
        exact hd
      have := ih (start + 1) (by omega) hd'
      simp only [hne, false_or]
      omega

/-- The measure of the traversal falls when a class is visited for the first time. -/
theorem remaining_visit_lt (h : Hierarchy) (edges : Declaration → List ClassId)
    (hvacant : edges .vacant = []) (visited pending : List ClassId) (id : ClassId)
    (hid : id ∉ visited) :
    remaining edges (id :: visited) 0 h.declarations
        + (edges (h.declaration id) ++ pending).length
      < remaining edges visited 0 h.declarations + (id :: pending).length := by
  cases hd : h.declarations[id.index]? with
  | none =>
    have hle := remaining_cons_le edges visited id 0 h.declarations
    simp [declaration, hd, hvacant]
    omega
  | some d =>
    have hlt := remaining_cons_of_not_mem edges visited id hid 0 h.declarations d (by omega)
      (by simpa using hd)
    simp [declaration, hd]
    omega

/-- The edges that a traversal may follow: a vacant place has none. -/
structure Edges where
  /-- The ids that a declaration leads to. -/
  targets : Declaration → List ClassId
  /-- A vacant place leads nowhere. -/
  vacant : targets .vacant = []

/-- From a class to its superclass and its interfaces. -/
def Edges.parents : Edges := ⟨Declaration.parents, rfl⟩

/-- From a class to its superclass. -/
def Edges.superclass : Edges := ⟨fun d => d.rawSuperclass.toList, rfl⟩

/-- From a class to its interfaces. -/
def Edges.interfaces : Edges := ⟨Declaration.rawInterfaces, rfl⟩

/-- The classes reached from the pending ones without passing through a visited one, in depth-first
preorder. -/
def preorderFrom (h : Hierarchy) (edges : Edges) (visited : List ClassId) :
    List ClassId → List ClassId
  | [] => []
  | id :: pending =>
    if id ∈ visited then preorderFrom h edges visited pending
    else
      id :: preorderFrom h edges (id :: visited) (edges.targets (h.declaration id) ++ pending)
termination_by pending => remaining edges.targets visited 0 h.declarations + pending.length
decreasing_by
  · simp
  · exact remaining_visit_lt h edges.targets edges.vacant visited pending id (by assumption)

/-- The classes reached from a class, itself first, in depth-first preorder. -/
def preorder (h : Hierarchy) (edges : Edges) (id : ClassId) : List ClassId :=
  preorderFrom h edges [] [id]

end Introspection.Hierarchy
