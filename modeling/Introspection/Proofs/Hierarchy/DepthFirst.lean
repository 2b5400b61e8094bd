import Introspection.Proofs.Hierarchy.Reachability

/-!
# Depth-first preorder

`Hierarchy.preorderFrom` keeps one list of pending classes, to which it adds in front the classes
that a visited class leads to.  `Hierarchy.DepthFirst` says without that list what the order of its
visits is: each pending class in turn, unless it has been visited, followed by all that is visited
below it before the next pending class has its turn.

There is exactly one such order (`DepthFirst.unique`), no class has two places in it
(`DepthFirst.nodup_append`), and the traversal lists it (`depthFirst_iff`).
-/

namespace Introspection.Hierarchy

variable {h : Hierarchy} {edges : Edges} {visited pending order : List ClassId}

/-- The order in which the pending classes and all that is below them are visited depth-first, each
class before those that it leads to and none twice, if some classes have been visited. -/
inductive DepthFirst (h : Hierarchy) (edges : Edges) :
    List ClassId → List ClassId → List ClassId → Prop
  /-- Nothing is left to visit. -/
  | done (visited : List ClassId) : DepthFirst h edges visited [] []
  /-- A visited class is passed over. -/
  | again {visited pending order : List ClassId} {id : ClassId} (hvisited : id ∈ visited)
      (hrest : DepthFirst h edges visited pending order) :
      DepthFirst h edges visited (id :: pending) order
  /-- Another class is visited, and all that is below it before the classes that are pending beside
  it. -/
  | first {visited pending below rest : List ClassId} {id : ClassId} (hvisited : id ∉ visited)
      (hbelow : DepthFirst h edges (visited ++ [id]) (edges.targets (h.declaration id)) below)
      (hrest : DepthFirst h edges (visited ++ id :: below) pending rest) :
      DepthFirst h edges visited (id :: pending) (id :: below ++ rest)

namespace DepthFirst

/-- The classes of one list are visited before those of another that is pending behind it. -/
theorem exists_of_append {front back : List ClassId}
    (horder : DepthFirst h edges visited (front ++ back) order) :
    ∃ before after, order = before ++ after ∧ DepthFirst h edges visited front before ∧
      DepthFirst h edges (visited ++ before) back after := by
  generalize hpending : front ++ back = pending at horder
  induction horder generalizing front with
  | done visited =>
    obtain ⟨rfl, rfl⟩ := List.append_eq_nil_iff.1 hpending
    exact ⟨[], [], rfl, .done _, .done _⟩
  | @again visited pending order id hvisited hrest ih =>
    cases front with
    | nil =>
      obtain rfl : back = id :: pending := hpending
      exact ⟨[], order, rfl, .done _, .again (by simpa using hvisited) (by simpa using hrest)⟩
    | cons first front =>
      obtain ⟨rfl, htail⟩ := List.cons.inj hpending
      obtain ⟨before, after, rfl, hbefore, hafter⟩ := ih htail
      exact ⟨before, after, rfl, .again hvisited hbefore, hafter⟩
  | @first visited pending below rest id hvisited hbelow hrest ihbelow ih =>
    cases front with
    | nil =>
      obtain rfl : back = id :: pending := hpending
      exact ⟨[], _, rfl, .done _, by simpa using DepthFirst.first hvisited hbelow hrest⟩
    | cons first front =>
      obtain ⟨rfl, htail⟩ := List.cons.inj hpending
      obtain ⟨before, after, rfl, hbefore, hafter⟩ := ih htail
      refine ⟨first :: below ++ before, after, (List.append_assoc _ _ _).symm,
        .first hvisited hbelow hbefore, ?_⟩
      rwa [List.append_assoc] at hafter

/-- Depth first, there is one order of visits alone. -/
theorem unique {other : List ClassId} (horder : DepthFirst h edges visited pending order)
    (hother : DepthFirst h edges visited pending other) : other = order := by
  induction horder generalizing other with
  | done visited =>
    cases hother
    rfl
  | again hvisited hrest ih =>
    cases hother with
    | again _ hrest' => exact ih hrest'
    | first hnew _ _ => exact absurd hvisited hnew
  | first hvisited hbelow hrest ihbelow ih =>
    cases hother with
    | again hagain _ => exact absurd hagain hvisited
    | first _ hbelow' hrest' =>
      obtain rfl := ihbelow hbelow'
      rw [ih hrest']

/-- No class is visited twice, or again. -/
theorem nodup_append (horder : DepthFirst h edges visited pending order) (hnodup : visited.Nodup) :
    (visited ++ order).Nodup := by
  induction horder with
  | done visited => rwa [List.append_nil]
  | again hvisited hrest ih => exact ih hnodup
  | @first visited pending below rest id hvisited hbelow hrest ihbelow ih =>
    have hstart : (visited ++ [id]).Nodup :=
      (List.perm_append_singleton id visited).nodup_iff.2
        (List.nodup_cons.2 ⟨hvisited, hnodup⟩)
    have hmiddle : (visited ++ id :: below).Nodup := by
      simpa only [List.append_assoc, List.singleton_append] using ihbelow hstart
    simpa only [List.append_assoc, List.cons_append] using ih hmiddle

end DepthFirst

/-- The traversal lists its visits depth-first.  Of the visited classes it matters which they are,
but not in which order they are listed. -/
theorem depthFirst_preorderFrom {visited' : List ClassId}
    (hsame : ∀ id, id ∈ visited' ↔ id ∈ visited) :
    DepthFirst h edges visited' pending (h.preorderFrom edges visited pending) := by
  fun_induction preorderFrom h edges visited pending generalizing visited' with
  | case1 => exact .done _
  | case2 visited id pending hvisited ih => exact .again ((hsame id).2 hvisited) (ih hsame)
  | case3 visited id pending hvisited ih =>
    have hnew : id ∉ visited' := fun hmem => hvisited ((hsame id).1 hmem)
    have hsame' : ∀ other, other ∈ visited' ++ [id] ↔ other ∈ id :: visited := by
      intro other
      rw [List.mem_append, List.mem_singleton, List.mem_cons, hsame, or_comm]
    -- the traversal has what is below the class in one list with what is pending beside it
    obtain ⟨below, rest, hlisted, hbelow, hrest⟩ := (ih hsame').exists_of_append
    rw [hlisted]
    exact .first hnew hbelow (by simpa using hrest)

/-- The traversal from a class lists exactly the order in which it and all that is below it are
visited depth-first. -/
theorem depthFirst_iff {id : ClassId} :
    DepthFirst h edges [] [id] order ↔ order = h.preorder edges id := by
  have hpreorder : DepthFirst h edges [] [id] (h.preorder edges id) :=
    depthFirst_preorderFrom fun _ => Iff.rfl
  constructor
  · exact hpreorder.unique
  · rintro rfl
    exact hpreorder

end Introspection.Hierarchy
