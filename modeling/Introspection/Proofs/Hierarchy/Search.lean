import Introspection.Proofs.Hierarchy.Reachability

/-!
# The search for a superclass

Whether one class is a subclass of another can be found out with a stack of classes that are still to
be looked at and a record of those that have been: `Search.pass` takes one class from the stack, and
either answers or puts the supertypes of the class on it.

A pass that does not answer leaves less to do (`Search.work_lt_of_pass`), whatever cycles or missing
classes the table has, and keeps what the search knows (`Search.Sound`): everything visited or
pending is inherited from, and whatever a visited class leads to is visited or pending as well.  When
nothing is pending any more, the visited classes are therefore closed under supertypes, and the class
that is looked for is not above the first one.

`isSubclass_search` is the main statement: within a bound that can be read off the table the search
gives the answer of `Hierarchy.isSubclass`, and the answer is reachability.
-/

namespace Introspection.Hierarchy

variable {h : Hierarchy} {sub sup : ClassId}

/-- A search under way. -/
structure Search where
  /-- The classes that have been visited. -/
  visited : List ClassId
  /-- The classes still to be looked at, the next one first. -/
  pending : List ClassId

namespace Search

variable {s next : Search} {answer : Bool}

/-- The search that has one class to look at and has visited none. -/
def start (sub : ClassId) : Search := ⟨[], [sub]⟩

/-- One pass of the search, which ends in an answer or in the search to go on with.  The supertypes
of a class go on top of the pending classes one after the other, the superclass first, so the last
interface is the next class to be looked at. -/
def pass (h : Hierarchy) (sup : ClassId) : Search → Bool ⊕ Search
  | ⟨_, []⟩ => .inl false
  | ⟨visited, current :: pending⟩ =>
    if current = sup then .inl true
    else if current ∈ visited then .inr ⟨visited, pending⟩
    else .inr ⟨current :: visited, (h.declaration current).parents.reverse ++ pending⟩

/-- The answer of a search, unless it takes more than this number of passes. -/
def answerWithin (h : Hierarchy) (sup : ClassId) : (passes : Nat) → Search → Option Bool
  | 0, _ => none
  | passes + 1, s =>
    match s.pass h sup with
    | .inl answer => some answer
    | .inr next => answerWithin h sup passes next

/-- What a search may still have to look at: the pending classes, and the supertypes of all classes
that have not been visited. -/
def work (h : Hierarchy) (s : Search) : Nat :=
  remaining Declaration.parents s.visited 0 h.declarations + s.pending.length

/-- What a search from `sub` knows about the classes above it. -/
structure Sound (h : Hierarchy) (sub sup : ClassId) (s : Search) : Prop where
  /-- All classes that it has come to are inherited from. -/
  inherits : ∀ id, id ∈ s.visited ∨ id ∈ s.pending → h.Inherits sub id
  /-- The first class has not been lost. -/
  start_mem : sub ∈ s.visited ∨ sub ∈ s.pending
  /-- Nor has any supertype of a visited class. -/
  parent_mem : ∀ id ∈ s.visited, ∀ parent, h.Edge .parents id parent →
    parent ∈ s.visited ∨ parent ∈ s.pending
  /-- The class that is looked for has not been visited. -/
  not_mem_visited : sup ∉ s.visited

/-! ### One pass -/

/-- A pass answers if nothing is pending, or if the next class is the one that is looked for. -/
theorem pass_eq_inl (hpass : s.pass h sup = .inl answer) :
    (s.pending = [] ∧ answer = false) ∨ (sup ∈ s.pending ∧ answer = true) := by
  obtain ⟨visited, pending⟩ := s
  cases pending with
  | nil => exact .inl ⟨rfl, (Sum.inl.inj hpass).symm⟩
  | cons current pending =>
    simp only [pass] at hpass
    split at hpass
    · next hfound => exact .inr ⟨by simp [hfound], (Sum.inl.inj hpass).symm⟩
    · split at hpass <;> cases hpass

/-- A pass that does not answer drops the next class if it has been visited, and else visits it and
puts its supertypes in its place. -/
theorem pass_eq_inr (hpass : s.pass h sup = .inr next) :
    ∃ current pending, s.pending = current :: pending ∧
      ((current ∈ s.visited ∧ next = ⟨s.visited, pending⟩) ∨
        (current ≠ sup ∧ current ∉ s.visited ∧
          next = ⟨current :: s.visited, (h.declaration current).parents.reverse ++ pending⟩)) := by
  obtain ⟨visited, pending⟩ := s
  cases pending with
  | nil => cases hpass
  | cons current pending =>
    refine ⟨current, pending, rfl, ?_⟩
    simp only [pass] at hpass
    split at hpass
    · cases hpass
    · next hne =>
      split at hpass
      · next hvisited => exact .inl ⟨hvisited, (Sum.inr.inj hpass).symm⟩
      · next hnew => exact .inr ⟨hne, hnew, (Sum.inr.inj hpass).symm⟩

/-- A pass that does not answer leaves less to do. -/
theorem work_lt_of_pass (hpass : s.pass h sup = .inr next) : next.work h < s.work h := by
  obtain ⟨current, pending, hpending, ⟨-, rfl⟩ | ⟨-, hnew, rfl⟩⟩ := pass_eq_inr hpass
  · simp [work, hpending]
  · have hlt := remaining_visit_lt h Declaration.parents rfl s.visited pending current hnew
    simpa [work, hpending] using hlt

/-- A pass that does not answer loses no class that the search has come to. -/
theorem mem_of_pass (hpass : s.pass h sup = .inr next) {id : ClassId}
    (hid : id ∈ s.visited ∨ id ∈ s.pending) : id ∈ next.visited ∨ id ∈ next.pending := by
  obtain ⟨current, pending, hpending, hcase⟩ := pass_eq_inr hpass
  rw [hpending, List.mem_cons] at hid
  rcases hcase with ⟨hvisited, rfl⟩ | ⟨-, -, rfl⟩ <;> rcases hid with hid | rfl | hid
  · exact .inl hid
  · exact .inl hvisited
  · exact .inr hid
  · exact .inl (List.mem_cons_of_mem _ hid)
  · exact .inl List.mem_cons_self
  · exact .inr (List.mem_append_right _ hid)

/-- A pass that does not answer keeps what the search knows. -/
theorem Sound.of_pass (hs : s.Sound h sub sup) (hpass : s.pass h sup = .inr next) :
    next.Sound h sub sup := by
  have hkept := fun {id} => @mem_of_pass h sup s next hpass id
  obtain ⟨current, pending, hpending, hcase⟩ := pass_eq_inr hpass
  have hrest : ∀ {id}, id ∈ pending → h.Inherits sub id := fun hid =>
    hs.inherits _ (.inr (by simp [hpending, hid]))
  have hcurrent : h.Inherits sub current := hs.inherits current (.inr (by simp [hpending]))
  rcases hcase with ⟨hvisited, rfl⟩ | ⟨hne, hnew, rfl⟩
  · refine ⟨?_, hkept hs.start_mem,
      fun id hid parent hedge => hkept (hs.parent_mem id hid parent hedge), hs.not_mem_visited⟩
    rintro id (hid | hid)
    · exact hs.inherits id (.inl hid)
    · exact hrest hid
  · refine ⟨?inherits, hkept hs.start_mem, ?parent_mem, ?not_mem_visited⟩
    case inherits =>
      rintro id (hid | hid)
      · rcases List.mem_cons.1 hid with rfl | hid
        · exact hcurrent
        · exact hs.inherits id (.inl hid)
      · rcases List.mem_append.1 hid with hparent | hid
        · exact hcurrent.tail (List.mem_reverse.1 hparent)
        · exact hrest hid
    case parent_mem =>
      intro id hid parent hedge
      rcases List.mem_cons.1 hid with rfl | hid
      · exact .inr (List.mem_append_left _ (List.mem_reverse.2 hedge))
      · exact hkept (hs.parent_mem id hid parent hedge)
    case not_mem_visited =>
      exact List.not_mem_cons_of_ne_of_not_mem hne.symm hs.not_mem_visited

/-- If nothing is pending any more, the visited classes are all that is inherited from. -/
theorem Sound.not_inherits_of_pending_eq_nil (hs : s.Sound h sub sup) (hnil : s.pending = []) :
    ¬ h.Inherits sub sup := by
  have hvisited : ∀ id, id ∈ s.visited ∨ id ∈ s.pending → id ∈ s.visited := by
    intro id hid
    simpa [hnil] using hid
  have hall : ∀ id, h.Inherits sub id → id ∈ s.visited := by
    intro id hinherits
    induction hinherits with
    | refl => exact hvisited sub hs.start_mem
    | tail _ hedge ih => exact hvisited _ (hs.parent_mem _ ih _ hedge)
  exact fun hinherits => hs.not_mem_visited (hall sup hinherits)

/-- The answer of a pass is whether the class that is looked for is inherited from. -/
theorem Sound.answer_iff (hs : s.Sound h sub sup) (hpass : s.pass h sup = .inl answer) :
    answer = true ↔ h.Inherits sub sup := by
  rcases pass_eq_inl hpass with ⟨hnil, rfl⟩ | ⟨hmem, rfl⟩
  · simp [hs.not_inherits_of_pending_eq_nil hnil]
  · simp [hs.inherits sup (.inr hmem)]

/-! ### The whole search -/

/-- A search ends after at most one pass more than it has work, and its answer is whether the class
that is looked for is inherited from. -/
theorem Sound.exists_answerWithin (hs : s.Sound h sub sup) {passes : Nat}
    (hpasses : s.work h < passes) :
    ∃ answer, s.answerWithin h sup passes = some answer ∧
      (answer = true ↔ h.Inherits sub sup) := by
  induction passes generalizing s with
  | zero => omega
  | succ passes ih =>
    cases hpass : s.pass h sup with
    | inl answer =>
      refine ⟨answer, ?_, hs.answer_iff hpass⟩
      rw [answerWithin, hpass]
    | inr next =>
      have hless : next.work h < s.work h := work_lt_of_pass hpass
      obtain ⟨answer, hanswer, hiff⟩ := ih (hs.of_pass hpass) (by omega)
      refine ⟨answer, ?_, hiff⟩
      rw [answerWithin, hpass]
      exact hanswer

/-- At the start nothing has been visited, and there is nothing but the first class to know of. -/
theorem sound_start (h : Hierarchy) (sub sup : ClassId) : (start sub).Sound h sub sup where
  inherits id hid := by
    obtain rfl : id = sub := by simpa [start] using hid
    exact .refl
  start_mem := .inr List.mem_cons_self
  parent_mem id hid := by simp [start] at hid
  not_mem_visited := List.not_mem_nil

end Search

/-- A traversal that has visited nothing may have to take every class and every edge of the table. -/
theorem remaining_nil (edges : Declaration → List ClassId) (start : Nat) (ds : List Declaration) :
    remaining edges [] start ds = ds.length + (ds.flatMap edges).length := by
  induction ds generalizing start with
  | nil => rfl
  | cons d ds ih =>
    simp only [remaining, ih, List.not_mem_nil, if_false, List.length_cons, List.flatMap_cons,
      List.length_append]
    omega

/-- A number of passes after which every search in the table has ended: one for each class and each
written supertype, one for the first class, and one that finds nothing left. -/
def passBound (h : Hierarchy) : Nat :=
  h.declarations.length + (h.declarations.flatMap Declaration.parents).length + 2

/-- The whole search has less to do than `passBound` says. -/
theorem Search.work_start_lt (h : Hierarchy) (sub : ClassId) :
    (start sub).work h < h.passBound := by
  simp only [work, start, remaining_nil, List.length_singleton, passBound]
  omega

/-- The subclass test by search, unless it takes more than this number of passes. -/
def isSubclassWithin (h : Hierarchy) (passes : Nat) (sub sup : ClassId) : Option Bool :=
  if sub = sup ∨ sup = .object then some true
  else (Search.start sub).answerWithin h sup passes

/-- The second class is the superclass of the first one or one of its interfaces, as raw classes. -/
def HasParent (h : Hierarchy) (a b : ClassId) : Prop :=
  (h.declaration a).rawSuperclass = some b ∨ b ∈ (h.declaration a).rawInterfaces

theorem hasParent_eq_edge : h.HasParent = h.Edge .parents := by
  funext a b
  simp only [HasParent, Edge, Edges.parents, Declaration.parents, List.mem_append,
    Option.mem_toList]

/-- The subclass test is reachability by steps to supertypes, with `Object` above everything. -/
theorem isSubclass_iff_transGen : h.isSubclass sub sup = true ↔
    sub = sup ∨ sup = .object ∨ Relation.TransGen h.HasParent sub sup := by
  have hsteps : h.Inherits sub sup ↔ sub = sup ∨ Relation.TransGen h.HasParent sub sup := by
    rw [hasParent_eq_edge, eq_comm]
    exact Relation.reflTransGen_iff_eq_or_transGen
  rw [isSubclass_iff, hsteps, or_left_comm]

/-- With at least `passBound` passes the search gives the answer of the subclass test. -/
theorem isSubclassWithin_eq {passes : Nat} (hpasses : h.passBound ≤ passes) :
    h.isSubclassWithin passes sub sup = some (h.isSubclass sub sup) := by
  unfold isSubclassWithin
  split
  · next hshort => rw [isSubclass_iff_transGen.2 (hshort.imp_right .inl)]
  · next hlong =>
    have hwork : (Search.start sub).work h < passes :=
      Nat.lt_of_lt_of_le (Search.work_start_lt h sub) hpasses
    obtain ⟨answer, hanswer, hiff⟩ :=
      (Search.sound_start h sub sup).exists_answerWithin hwork
    have hobject : sup ≠ .object := fun heq => hlong (.inr heq)
    have hsame : answer = true ↔ h.isSubclass sub sup = true := by
      rw [hiff, isSubclass_iff, or_iff_right hobject]
    rw [hanswer, Bool.eq_iff_iff.2 hsame]

/-- In every table the search for a superclass ends, within a bound that can be read off the table,
and gives the answer of the subclass test.  One class is a subclass of another exactly if they are
the same, the other one is `Object`, or supertypes lead from the one to the other. -/
theorem isSubclass_search (h : Hierarchy) (sub sup : ClassId) :
    (∀ more, h.isSubclassWithin (h.passBound + more) sub sup = some (h.isSubclass sub sup)) ∧
      (h.isSubclass sub sup = true ↔
        sub = sup ∨ sup = .object ∨ Relation.TransGen h.HasParent sub sup) :=
  ⟨fun _ => isSubclassWithin_eq (Nat.le_add_right _ _), isSubclass_iff_transGen⟩

/-- Two classes that extend each other, with an interface of which the table knows nothing: the
interface is found, and the search for another class ends. -/
example :
    let h : Hierarchy := ⟨[.vacant, ⟨none, [], some (.ofClass ⟨2⟩), [.ofClass ⟨7⟩]⟩,
      ⟨none, [], some (.ofClass ⟨1⟩), [.ofClass ⟨7⟩]⟩, .vacant]⟩
    h.isSubclassWithin h.passBound ⟨1⟩ ⟨7⟩ = some true ∧
      h.isSubclassWithin h.passBound ⟨1⟩ ⟨3⟩ = some false := by decide

end Introspection.Hierarchy
