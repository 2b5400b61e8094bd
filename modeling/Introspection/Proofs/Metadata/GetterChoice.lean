import Introspection.Proofs.Metadata.Members
import Introspection.Proofs.Registry.Assignability

/-!
# The choice among getters

What choosing among the getters of a property says about all of them, although it compares each with
the best so far alone and stops at the first pair that does not compare.

Where a choice is made, it has been preferred to every other candidate (`Hierarchy.Prefers`): its
class is no wider, and equal to that of another one only if both are `boolean`
(`Grounded.exists_perm_of_pickGetter`).  Subtyping is transitive and antisymmetric, so being
preferred is transitive, and the class chosen does not depend on the order of the candidates.  Where
no choice is made, two of the candidates clash (`exists_clash_of_pickGetter`).

`Registry.pickGetter_least` puts this together.
-/

namespace Introspection

/-- What follows `lead` in a name is what it has to be continued with to give the name. -/
theorem PropertyName.after?_eq_some_iff {lead name : String} {rest : List Char} :
    after? lead name = some rest ↔ lead.toList ++ rest = name.toList :=
  List.isPrefixOf?_eq_some_iff_append_eq

/-- The name of a method begins with `is` if these two characters are the first ones in it. -/
theorem Method.asksWhether_iff {m : Method} :
    m.asksWhether = true ↔ ['i', 's'] <+: m.name.toList := by
  rw [asksWhether, Option.isSome_iff_exists]
  exact exists_congr fun rest => PropertyName.after?_eq_some_iff

namespace Hierarchy

variable {h : Hierarchy} {winner candidate g g' kept given : Method} {rest rest' : List Method}

/-- Neither of two runtime classes can stand for the other one. -/
def Unrelated (h : Hierarchy) (a b : ClassRef) : Prop :=
  h.isAssignable a b = false ∧ h.isAssignable b a = false

/-- Two getters clash: they return unrelated classes, or the same one, which is not `boolean`. -/
def Clash (h : Hierarchy) (a b : Method) : Prop :=
  h.Unrelated a.returnClass b.returnClass ∨
    a.returnClass = b.returnClass ∧ a.returnClass ≠ .primitive .boolean

/-- The first getter is preferred to the second one. -/
structure Prefers (h : Hierarchy) (kept given : Method) : Prop where
  /-- What it returns can be assigned to the class of the other one. -/
  narrower : h.isAssignable given.returnClass kept.returnClass = true
  /-- Where the classes are the same, they are `boolean`. -/
  boolean : given.returnClass = kept.returnClass → kept.returnClass = .primitive .boolean
  /-- Where the classes are the same, its name begins with `is` if that of the other one does. -/
  asksWhether : given.returnClass = kept.returnClass → given.asksWhether = true →
    kept.asksWhether = true

theorem isBoolean_iff {a : ClassRef} : a.isBoolean = true ↔ a = .primitive .boolean := by
  unfold ClassRef.isBoolean
  split
  · simp
  · next hne => simpa using hne

/-! ### One step -/

/-- Comparing the best so far with a further candidate keeps one of them, which is preferred to the
other one, or ends because the two clash. -/
theorem pickGetter_cons_cases (h : Hierarchy) (winner candidate : Method) (rest : List Method) :
    (∃ kept given, [winner, candidate].Perm [kept, given] ∧ h.Prefers kept given ∧
      h.pickGetter winner (candidate :: rest) = h.pickGetter kept rest) ∨
    h.Clash winner candidate ∧ h.pickGetter winner (candidate :: rest) = (winner, true) := by
  rw [pickGetter]
  by_cases heq : candidate.returnClass = winner.returnClass
  · rw [if_pos heq]
    by_cases hboolean : candidate.returnClass.isBoolean = true
    · have hclass : candidate.returnClass = .primitive .boolean := isBoolean_iff.1 hboolean
      have hclass' : winner.returnClass = .primitive .boolean := heq ▸ hclass
      left
      rw [if_pos hboolean]
      by_cases hasks : candidate.asksWhether = true
      · refine ⟨candidate, winner, .swap _ _ _, ⟨?_, fun _ => hclass, fun _ _ => hasks⟩, ?_⟩
        · rw [heq]
          exact h.isAssignable_refl _
        · rw [if_pos hasks]
      · refine ⟨winner, candidate, .refl _, ⟨?_, fun _ => hclass', fun _ hcand => ?_⟩, ?_⟩
        · rw [heq]
          exact h.isAssignable_refl _
        · exact absurd hcand hasks
        · rw [if_neg hasks]
    · right
      rw [if_neg hboolean]
      refine ⟨.inr ⟨heq.symm, fun hclass => hboolean ?_⟩, rfl⟩
      rw [heq]
      exact isBoolean_iff.2 hclass
  · rw [if_neg heq]
    by_cases hwider : h.isAssignable candidate.returnClass winner.returnClass = true
    · left
      refine ⟨winner, candidate, .refl _,
        ⟨hwider, fun e => absurd e heq, fun e => absurd e heq⟩, ?_⟩
      rw [if_pos hwider]
    · rw [if_neg hwider]
      by_cases hnarrower : h.isAssignable winner.returnClass candidate.returnClass = true
      · left
        have hne : ¬ winner.returnClass = candidate.returnClass := fun e => heq e.symm
        refine ⟨candidate, winner, .swap _ _ _,
          ⟨hnarrower, fun e => absurd e hne, fun e => absurd e hne⟩, ?_⟩
        rw [if_pos hnarrower]
      · right
        rw [if_neg hnarrower]
        exact ⟨.inl ⟨Bool.not_eq_true _ ▸ hnarrower, Bool.not_eq_true _ ▸ hwider⟩, rfl⟩

/-- Being preferred goes on through a getter in between. -/
theorem Prefers.trans (hh : h.Grounded) (hg : h.Prefers g kept) (hkept : h.Prefers kept given) :
    h.Prefers g given := by
  -- a getter between two of one class has this class as well
  have hbetween : given.returnClass = g.returnClass → kept.returnClass = g.returnClass := by
    intro heq
    have hdown : h.isAssignable kept.returnClass g.returnClass = true := hg.narrower
    have hup : h.isAssignable g.returnClass kept.returnClass = true := heq ▸ hkept.narrower
    exact hh.isAssignable_antisymm hdown hup
  refine ⟨hh.isAssignable_trans hkept.narrower hg.narrower, fun heq => ?_, fun heq hasks => ?_⟩
  · exact hg.boolean (hbetween heq)
  · have hkeptAsks : kept.asksWhether = true :=
      hkept.asksWhether (heq.trans (hbetween heq).symm) hasks
    exact hg.asksWhether (hbetween heq) hkeptAsks

/-! ### The whole choice -/

/-- The getter chosen is preferred to all other candidates. -/
theorem Grounded.exists_perm_of_pickGetter (hh : h.Grounded)
    (hpick : h.pickGetter winner rest = (g, false)) :
    ∃ others, (winner :: rest).Perm (g :: others) ∧ ∀ m ∈ others, h.Prefers g m := by
  induction rest generalizing winner with
  | nil =>
    cases hpick
    exact ⟨[], .refl _, fun m hm => nomatch hm⟩
  | cons candidate rest ih =>
    rcases h.pickGetter_cons_cases winner candidate rest with
      ⟨kept, given, hpair, hprefers, hstep⟩ | ⟨-, hstep⟩
    · rw [hstep] at hpick
      obtain ⟨others, hperm, hothers⟩ := ih hpick
      have hgiven : h.Prefers g given := by
        have hkept : kept ∈ g :: others := hperm.mem_iff.1 List.mem_cons_self
        rcases List.mem_cons.1 hkept with rfl | hkept
        · exact hprefers
        · exact (hothers kept hkept).trans hh hprefers
      refine ⟨given :: others, ?_, fun m hm => ?_⟩
      · calc (winner :: candidate :: rest).Perm (kept :: given :: rest) := hpair.append_right rest
          _ |>.Perm (given :: kept :: rest) := .swap _ _ _
          _ |>.Perm (given :: g :: others) := hperm.cons given
          _ |>.Perm (g :: given :: others) := .swap _ _ _
      · rcases List.mem_cons.1 hm with rfl | hm
        · exact hgiven
        · exact hothers m hm
    · rw [hstep] at hpick
      cases hpick

/-- The getter chosen returns the narrowest class of all candidates. -/
theorem Grounded.isAssignable_of_pickGetter (hh : h.Grounded)
    (hpick : h.pickGetter winner rest = (g, false)) :
    ∀ m ∈ winner :: rest, h.isAssignable m.returnClass g.returnClass = true := by
  obtain ⟨others, hperm, hothers⟩ := hh.exists_perm_of_pickGetter hpick
  intro m hm
  rcases List.mem_cons.1 (hperm.mem_iff.1 hm) with rfl | hm
  · exact h.isAssignable_refl m.returnClass
  · exact (hothers m hm).narrower

/-- Where no choice is made, the best so far clashes with a candidate behind it. -/
theorem exists_clash_of_pickGetter (hpick : h.pickGetter winner rest = (g, true)) :
    ∃ m, [g, m].Sublist (winner :: rest) ∧ h.Clash g m := by
  induction rest generalizing winner with
  | nil => cases hpick
  | cons candidate rest ih =>
    rcases h.pickGetter_cons_cases winner candidate rest with
      ⟨kept, given, hpair, -, hstep⟩ | ⟨hclash, hstep⟩
    · rw [hstep] at hpick
      obtain ⟨m, hsub, hclash⟩ := ih hpick
      have hkept : kept = winner ∨ kept = candidate := by
        have hmem : kept ∈ [winner, candidate] := hpair.mem_iff.2 List.mem_cons_self
        simpa using hmem
      refine ⟨m, hsub.trans ?_, hclash⟩
      rcases hkept with rfl | rfl
      · exact (List.sublist_cons_self candidate rest).cons_cons kept
      · exact List.sublist_cons_self winner (kept :: rest)
    · rw [hstep] at hpick
      obtain rfl : winner = g := (Prod.mk.inj hpick).1
      have hpair : [winner, candidate].Sublist (winner :: candidate :: rest) :=
        ((List.nil_sublist rest).cons_cons candidate).cons_cons winner
      exact ⟨candidate, hpair, hclash⟩

/-- A getter of `boolean` is preferred to getters of `boolean` alone. -/
theorem Prefers.returnClass_eq_of_boolean (hg : h.Prefers g given)
    (hboolean : g.returnClass = .primitive .boolean) : given.returnClass = g.returnClass := by
  have hassignable : h.isAssignable given.returnClass (.primitive .boolean) = true :=
    hboolean ▸ hg.narrower
  rw [isAssignable_to_primitive_iff.1 hassignable, hboolean]

/-- The class chosen does not depend on the order of the candidates. -/
theorem Grounded.returnClass_eq_of_perm (hh : h.Grounded) {winner' : Method}
    (hperm : (winner :: rest).Perm (winner' :: rest'))
    (hpick : h.pickGetter winner rest = (g, false))
    (hpick' : h.pickGetter winner' rest' = (g', false)) : g.returnClass = g'.returnClass := by
  have hmem : g ∈ winner :: rest := by simpa [hpick] using h.pickGetter_mem winner rest
  have hmem' : g' ∈ winner' :: rest' := by simpa [hpick'] using h.pickGetter_mem winner' rest'
  have hdown : h.isAssignable g.returnClass g'.returnClass = true :=
    hh.isAssignable_of_pickGetter hpick' g (hperm.mem_iff.1 hmem)
  have hup : h.isAssignable g'.returnClass g.returnClass = true :=
    hh.isAssignable_of_pickGetter hpick g' (hperm.mem_iff.2 hmem')
  exact hh.isAssignable_antisymm hdown hup

end Hierarchy

namespace Registry

variable {r : Registry}

/-- In every reachable registry, and for all candidates of a property: a getter that is chosen
returns a class that can be assigned to those of all others, and if another one returns the same
class, this is `boolean`, and the name of the chosen one begins with `is` if any name does.  Where
none is chosen, two candidates return unrelated classes, or the same one, which is not `boolean`; so
one is chosen wherever the classes differ and are all comparable.  The class chosen does not depend
on the order of the candidates. -/
theorem pickGetter_least (hr : r.Reachable) (first : Method) (rest : List Method) :
    (∀ g, r.hierarchy.pickGetter first rest = (g, false) →
      (∀ m ∈ first :: rest, r.hierarchy.isAssignable m.returnClass g.returnClass = true) ∧
      ∃ others, (first :: rest).Perm (g :: others) ∧
        ∀ m ∈ others, m.returnClass = g.returnClass → g.returnClass = .primitive .boolean ∧
          ∀ k ∈ first :: rest, ['i', 's'] <+: k.name.toList → ['i', 's'] <+: g.name.toList) ∧
    (∀ g, r.hierarchy.pickGetter first rest = (g, true) →
      ∃ a b, [a, b].Sublist (first :: rest) ∧ r.hierarchy.Clash a b) ∧
    ((first :: rest).Pairwise (fun a b => a.returnClass ≠ b.returnClass ∧
        ¬ r.hierarchy.Unrelated a.returnClass b.returnClass) →
      ∃ g, r.hierarchy.pickGetter first rest = (g, false)) ∧
    ∀ first' rest' g g', (first :: rest).Perm (first' :: rest') →
      r.hierarchy.pickGetter first rest = (g, false) →
        r.hierarchy.pickGetter first' rest' = (g', false) → g.returnClass = g'.returnClass := by
  have hh : r.hierarchy.Grounded := hr.grounded
  refine ⟨fun g hpick => ⟨hh.isAssignable_of_pickGetter hpick, ?sole⟩, fun g hpick => ?clash,
    fun hpairwise => ?comparable, fun first' rest' g g' => hh.returnClass_eq_of_perm⟩
  case sole =>
    obtain ⟨others, hperm, hothers⟩ := hh.exists_perm_of_pickGetter hpick
    refine ⟨others, hperm, fun m hm heq => ?_⟩
    have hboolean : g.returnClass = .primitive .boolean := (hothers m hm).boolean heq
    refine ⟨hboolean, fun k hk => ?_⟩
    rw [← Method.asksWhether_iff, ← Method.asksWhether_iff]
    intro hasks
    rcases List.mem_cons.1 (hperm.mem_iff.1 hk) with rfl | hk
    · exact hasks
    · have hsame : k.returnClass = g.returnClass :=
        (hothers k hk).returnClass_eq_of_boolean hboolean
      exact (hothers k hk).asksWhether hsame hasks
  case clash =>
    obtain ⟨m, hsub, hclash⟩ := Hierarchy.exists_clash_of_pickGetter hpick
    exact ⟨g, m, hsub, hclash⟩
  case comparable =>
    rcases hpick : r.hierarchy.pickGetter first rest with ⟨g, ambiguous⟩
    cases ambiguous with
    | false => exact ⟨g, rfl⟩
    | true =>
      obtain ⟨m, hsub, hclash⟩ := Hierarchy.exists_clash_of_pickGetter hpick
      have hpair := hpairwise.sublist hsub
      obtain ⟨hne, hrelated⟩ := (List.pairwise_cons.1 hpair).1 m List.mem_cons_self
      rcases hclash with hunrelated | ⟨heq, -⟩
      · exact absurd hunrelated hrelated
      · exact absurd heq hne

/-- The calls that define an interface and a class with it. -/
def drawingCalls : List RegistryCall :=
  definitionCalls [.ofKind ⟨7⟩ "Figure" .interface,
    (ClassDraft.ofKind ⟨8⟩ "Disc" .ordinary).withInterface (.ofClass ⟨7⟩)]

/-- A getter in some place of a class, without a body. -/
def drawingGetter (index : Nat) (name : String) (type : ClassRef) : Method :=
  ⟨⟨⟨⟨9⟩, .method, index⟩, name, "Drawing", .publicFlag⟩, .plain type, [], none⟩

/-- Of getters of an object, of arrays of discs and of arrays of figures the one of discs is chosen
in any order.  Of two getters of a flag, in either order, the one whose name begins with `is` is
chosen.  A getter of discs and one of strings cannot be compared. -/
theorem drawingCalls_pickGetter_least :
    let r := drawingCalls.foldl after initial
    let object := drawingGetter 0 "getParts" .object
    let discs := drawingGetter 1 "getParts" (.array (.declared ⟨8⟩))
    let figures := drawingGetter 2 "getParts" (.array (.declared ⟨7⟩))
    let flag := drawingGetter 3 "getFilled" (.primitive .boolean)
    let question := drawingGetter 4 "isFilled" (.primitive .boolean)
    let text := drawingGetter 5 "getParts" (.declared ⟨1⟩)
    r.Reachable ∧
    (∃ g g', r.hierarchy.pickGetter object [discs, figures] = (g, false) ∧
      r.hierarchy.pickGetter figures [discs, object] = (g', false) ∧
      g.returnClass = .array (.declared ⟨8⟩) ∧ g.returnClass = g'.returnClass) ∧
    r.hierarchy.pickGetter question [flag] = (question, false) ∧
    r.hierarchy.pickGetter flag [question] = (question, false) ∧
    ∃ a b, [a, b].Sublist [discs, text] ∧ r.hierarchy.Clash a b := by
  intro r object discs figures flag question text
  have hreachable : r.Reachable := reachable_definitionCalls (by decide)
  obtain ⟨-, -, -, horder⟩ := pickGetter_least hreachable object [discs, figures]
  have hflags : ∀ first other g, [first, other].Perm [question, flag] →
      r.hierarchy.pickGetter first [other] = (g, false) → g = question := by
    intro first other g hboth hpick
    obtain ⟨-, others, hperm, hothers⟩ :=
      (pickGetter_least hreachable first [other]).1 g hpick
    have hboolean : ∀ m ∈ [question, flag], m.returnClass = .primitive .boolean := by decide
    have hclass : ∀ m ∈ g :: others, m.returnClass = .primitive .boolean := fun m hm =>
      hboolean m (hboth.mem_iff.1 (hperm.mem_iff.2 hm))
    obtain ⟨m, hm⟩ : ∃ m, m ∈ others := by
      have hlength : others.length = 1 := by simpa using hperm.length_eq.symm
      exact List.exists_mem_of_length_pos (hlength ▸ Nat.one_pos)
    have hsame : m.returnClass = g.returnClass :=
      (hclass m (List.mem_cons_of_mem g hm)).trans (hclass g List.mem_cons_self).symm
    have his : ['i', 's'] <+: g.name.toList := (hothers m hm hsame).2 question
      (hboth.mem_iff.2 List.mem_cons_self) (by decide)
    rcases List.mem_cons.1 (hboth.mem_iff.1 (hperm.mem_iff.2 List.mem_cons_self)) with hg | hg
    · exact hg
    · rw [List.mem_singleton.1 hg] at his
      exact absurd his (by decide)
  refine ⟨hreachable, ?parts, ?question, ?flag, ?unrelated⟩
  case parts =>
    have hshown : (r.hierarchy.pickGetter object [discs, figures]).2 = false ∧
        (r.hierarchy.pickGetter object [discs, figures]).1.returnClass =
          .array (.declared ⟨8⟩) ∧
        (r.hierarchy.pickGetter figures [discs, object]).2 = false := by decide +kernel
    rcases hpick : r.hierarchy.pickGetter object [discs, figures] with ⟨g, b⟩
    rcases hpick' : r.hierarchy.pickGetter figures [discs, object] with ⟨g', b'⟩
    rw [hpick, hpick'] at hshown
    obtain ⟨rfl, hclass, rfl⟩ := hshown
    have hperm : [object, discs, figures].Perm [figures, discs, object] :=
      (List.reverse_perm [object, discs, figures]).symm
    exact ⟨g, g', rfl, rfl, hclass, horder _ _ g g' hperm hpick hpick'⟩
  case question =>
    have hshown : (r.hierarchy.pickGetter question [flag]).2 = false := by decide +kernel
    exact Prod.ext (hflags question flag _ (.refl _) (Prod.ext rfl hshown)) hshown
  case flag =>
    have hshown : (r.hierarchy.pickGetter flag [question]).2 = false := by decide +kernel
    exact Prod.ext (hflags flag question _ (.swap _ _ _) (Prod.ext rfl hshown)) hshown
  case unrelated =>
    have hshown : (r.hierarchy.pickGetter discs [text]).2 = true := by decide +kernel
    rcases hpick : r.hierarchy.pickGetter discs [text] with ⟨g, b⟩
    rw [hpick] at hshown
    obtain rfl : b = true := hshown
    exact (pickGetter_least hreachable discs [text]).2.1 g hpick

end Registry

end Introspection
