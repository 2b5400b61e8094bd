import Mathlib.Data.List.Basic

/-!
# Computations that may fail

What is known of the parts of a computation when the whole has succeeded: of two steps in sequence
(`bind_eq_ok_iff`), of a step on each element of a list (`exists_of_mem_mapM_eq_ok`,
`exists_mem_of_mapM_eq_ok`, `pairwise_of_mapM_eq_ok`, `filter_of_mapM_eq_ok`), and of a step that is
repeated along a list (`foldlM_eq_ok_induction`).  Conversely the whole succeeds if all parts do
(`exists_mapM_eq_ok`), and fails only if one does (`exists_of_mapM_eq_error`).
-/

namespace Introspection.Except

universe u

variable {ε α β : Type u}

theorem bind_eq_ok_iff {x : Except ε α} {f : α → Except ε β} {b : β} :
    (x >>= f) = .ok b ↔ ∃ a, x = .ok a ∧ f a = .ok b := by
  cases x with
  | error e => simp [bind, Except.bind]
  | ok a => simp [bind, Except.bind]

theorem toOption_eq_some_iff {x : Except ε α} {a : α} : x.toOption = some a ↔ x = .ok a := by
  cases x <;> simp [Except.toOption]

theorem map_eq_ok_iff {x : Except ε α} {f : α → β} {b : β} :
    x.map f = .ok b ↔ ∃ a, x = .ok a ∧ f a = b := by
  cases x <;> simp [Except.map]

/-- Each result of a step on every element is the result for one of the elements. -/
theorem exists_of_mem_mapM_eq_ok {f : α → Except ε β} {xs : List α} {ys : List β}
    (hok : xs.mapM f = .ok ys) {y : β} (hy : y ∈ ys) : ∃ x ∈ xs, f x = .ok y := by
  induction xs generalizing ys with
  | nil =>
    rw [List.mapM_nil] at hok
    cases hok
    cases hy
  | cons x xs ih =>
    rw [List.mapM_cons] at hok
    obtain ⟨z, hz, hok⟩ := bind_eq_ok_iff.1 hok
    obtain ⟨zs, hzs, hok⟩ := bind_eq_ok_iff.1 hok
    cases hok
    rcases List.mem_cons.1 hy with rfl | hy
    · exact ⟨x, List.mem_cons_self, hz⟩
    · obtain ⟨x', hx', heq⟩ := ih hzs hy
      exact ⟨x', List.mem_cons_of_mem _ hx', heq⟩

/-- Each element has its result among those of a step on every element. -/
theorem exists_mem_of_mapM_eq_ok {f : α → Except ε β} {xs : List α} {ys : List β}
    (hok : xs.mapM f = .ok ys) {x : α} (hx : x ∈ xs) : ∃ y ∈ ys, f x = .ok y := by
  induction xs generalizing ys with
  | nil => cases hx
  | cons first xs ih =>
    rw [List.mapM_cons] at hok
    obtain ⟨z, hz, hok⟩ := bind_eq_ok_iff.1 hok
    obtain ⟨zs, hzs, hok⟩ := bind_eq_ok_iff.1 hok
    cases hok
    rcases List.mem_cons.1 hx with rfl | hx
    · exact ⟨z, List.mem_cons_self, hz⟩
    · obtain ⟨y, hy, heq⟩ := ih hzs hx
      exact ⟨y, List.mem_cons_of_mem _ hy, heq⟩

/-- A step that succeeds on every element succeeds on all of them. -/
theorem exists_mapM_eq_ok {f : α → Except ε β} {xs : List α} (hstep : ∀ x ∈ xs, ∃ y, f x = .ok y) :
    ∃ ys, xs.mapM f = .ok ys := by
  induction xs with
  | nil => exact ⟨[], rfl⟩
  | cons x xs ih =>
    obtain ⟨y, hy⟩ := hstep x List.mem_cons_self
    obtain ⟨ys, hys⟩ := ih fun x' hx' => hstep x' (List.mem_cons_of_mem _ hx')
    refine ⟨y :: ys, ?_⟩
    rw [List.mapM_cons, hy, hys]
    rfl

/-- A step on every element that fails as a whole fails on one of them. -/
theorem exists_of_mapM_eq_error {f : α → Except ε β} {xs : List α} {e : ε}
    (herror : xs.mapM f = .error e) : ∃ x ∈ xs, f x = .error e := by
  induction xs with
  | nil => cases herror
  | cons x xs ih =>
    rw [List.mapM_cons] at herror
    cases hfirst : f x with
    | error e' =>
      rw [hfirst] at herror
      cases herror
      exact ⟨x, List.mem_cons_self, hfirst⟩
    | ok y =>
      rw [hfirst] at herror
      cases hrest : xs.mapM f with
      | error e' =>
        rw [hrest] at herror
        cases herror
        obtain ⟨x', hx', heq⟩ := ih hrest
        exact ⟨x', List.mem_cons_of_mem _ hx', heq⟩
      | ok ys =>
        rw [hrest] at herror
        cases herror

/-- What holds between any two elements passes to their results, which keep the order. -/
theorem pairwise_of_mapM_eq_ok {f : α → Except ε β} {R : α → α → Prop} {S : β → β → Prop}
    {xs : List α} {ys : List β} (hok : xs.mapM f = .ok ys) (hpairwise : xs.Pairwise R)
    (hstep : ∀ {x x' y y'}, R x x' → f x = .ok y → f x' = .ok y' → S y y') : ys.Pairwise S := by
  induction xs generalizing ys with
  | nil =>
    rw [List.mapM_nil] at hok
    cases hok
    exact .nil
  | cons x xs ih =>
    obtain ⟨hfirst, hrest⟩ := List.pairwise_cons.1 hpairwise
    rw [List.mapM_cons] at hok
    obtain ⟨y, hy, hok⟩ := bind_eq_ok_iff.1 hok
    obtain ⟨zs, hzs, hok⟩ := bind_eq_ok_iff.1 hok
    cases hok
    refine List.pairwise_cons.2 ⟨fun z hz => ?_, ih hzs hrest⟩
    obtain ⟨x', hx', heq⟩ := exists_of_mem_mapM_eq_ok hzs hz
    exact hstep (hfirst x' hx') hy heq

/-- The last element has its result at the end. -/
theorem exists_getLast?_of_mapM_eq_ok {f : α → Except ε β} {xs : List α} {ys : List β}
    (hok : xs.mapM f = .ok ys) {x : α} (hx : xs.getLast? = some x) :
    ∃ y, ys.getLast? = some y ∧ f x = .ok y := by
  obtain ⟨front, rfl⟩ := List.getLast?_eq_some_iff.1 hx
  rw [List.mapM_append] at hok
  obtain ⟨ys₁, -, hok⟩ := bind_eq_ok_iff.1 hok
  obtain ⟨ys₂, hlast, hok⟩ := bind_eq_ok_iff.1 hok
  rw [List.mapM_cons] at hlast
  obtain ⟨y, hy, hlast⟩ := bind_eq_ok_iff.1 hlast
  cases hlast
  cases hok
  exact ⟨y, by simp, hy⟩

/-- The results that a test selects are those of the elements that the same test selects. -/
theorem filter_of_mapM_eq_ok {f : α → Except ε β} {p : α → Bool} {q : β → Bool} {xs : List α}
    {ys : List β} (hok : xs.mapM f = .ok ys) (hsame : ∀ {x y}, f x = .ok y → q y = p x) :
    (xs.filter p).mapM f = .ok (ys.filter q) := by
  induction xs generalizing ys with
  | nil =>
    rw [List.mapM_nil] at hok
    cases hok
    rfl
  | cons x xs ih =>
    rw [List.mapM_cons] at hok
    obtain ⟨y, hy, hok⟩ := bind_eq_ok_iff.1 hok
    obtain ⟨zs, hzs, hok⟩ := bind_eq_ok_iff.1 hok
    cases hok
    cases hp : p x with
    | false =>
      rw [List.filter_cons_of_neg (by simp [hp]),
        List.filter_cons_of_neg (by simp [hsame hy, hp]), ih hzs]
    | true =>
      rw [List.filter_cons_of_pos hp, List.filter_cons_of_pos ((hsame hy).trans hp),
        List.mapM_cons, hy, ih hzs]
      rfl

/-- Steps that do the same on every element do the same on all of them. -/
theorem mapM_congr {f g : α → Except ε β} {xs : List α} (hsame : ∀ x ∈ xs, f x = g x) :
    xs.mapM f = xs.mapM g := by
  induction xs with
  | nil => rfl
  | cons x xs ih =>
    have hrest : xs.mapM f = xs.mapM g := ih fun x' hx' => hsame x' (List.mem_cons_of_mem x hx')
    rw [List.mapM_cons, List.mapM_cons, hsame x List.mem_cons_self, hrest]

/-- What holds at the start and is preserved by the step for every element holds at the end. -/
theorem foldlM_eq_ok_induction {f : β → α → Except ε β} {P : β → Prop} {xs : List α} {b b' : β}
    (hok : xs.foldlM f b = .ok b') (hstart : P b)
    (hstep : ∀ x ∈ xs, ∀ c c', P c → f c x = .ok c' → P c') : P b' := by
  induction xs generalizing b with
  | nil =>
    rw [List.foldlM_nil] at hok
    cases hok
    exact hstart
  | cons x xs ih =>
    rw [List.foldlM_cons] at hok
    obtain ⟨c, hc, hok⟩ := bind_eq_ok_iff.1 hok
    exact ih hok (hstep x List.mem_cons_self b c hstart hc)
      fun x' hx' => hstep x' (List.mem_cons_of_mem _ hx')

end Introspection.Except
