import Introspection.Proofs.Cache.Runs
import Introspection.Proofs.Metadata.Origin

/-!
# Transparency of the cache

Whatever has been done with a cache before, a lookup answers like a build from scratch, and which
answers are one instance is decided by the calls alone: `CacheRun.Transparent` collects what can be
observed of a lookup after a run, and `CacheRun.transparent` says that it is so after every run.

`FoundSince` is the declarative side of what is kept: the classes that have been found while the
cache was enabled, and not been dropped since.
-/

namespace Introspection

/-! ### Equality of metadata -/

theorem Accessor.same_self (a : Accessor) : a.same a = true := by
  cases a <;> simp [same]

theorem PropertyTable.sameAccessors_self (entries : List (String × Accessor)) :
    sameAccessors entries entries = true := by
  induction entries with
  | nil => rfl
  | cons entry entries ih => simp [sameAccessors, Accessor.same_self, ih]

theorem PropertyTable.same_self (t : PropertyTable) : t.same t = true := by
  simp [same, sameAccessors_self]

/-- Metadata is equal to itself. -/
theorem Metadata.same_self (m : Metadata) : m.same m = true := by
  simp [same, PropertyTable.same_self]

namespace CacheRun

variable {r : Registry} {s : State} {run : CacheRun} {actions : List CacheAction} {id : ClassId}

/-! ### What is kept -/

/-- What is kept stays until the cache is cleared. -/
theorem find?_entries_step {b : BuiltMetadata} (hkept : run.cache.entries.find? id = some b)
    {action : CacheAction} (haction : action ≠ .clear) :
    (run.step action).cache.entries.find? id = some b := by
  obtain ⟨other, rfl⟩ | ⟨on, rfl⟩ | rfl | ⟨-, hcache, -⟩ := run.step_cases action
  · cases hanswer : run.answer other with
    | error e => rwa [(step_find_of_answer_eq_error hanswer).2]
    | ok b' =>
      rcases step_find_of_answer_eq_ok hanswer with ⟨-, -, hstep⟩ | ⟨-, -, hnone, hstep⟩
      · rwa [hstep]
      · rw [hstep]
        dsimp only
        split
        · next henabled =>
          have hne : id ≠ other := by
            rintro rfl
            rw [hnone henabled] at hkept
            cases hkept
          rwa [Assoc.find?_insert_of_ne _ _ hne]
        · exact hkept
  · exact hkept
  · exact absurd rfl haction
  · rwa [hcache]

/-- What is kept stays through a run in which the cache is not cleared. -/
theorem find?_entries_foldl {b : BuiltMetadata} (hkept : run.cache.entries.find? id = some b)
    (hactions : .clear ∉ actions) :
    (actions.foldl step run).cache.entries.find? id = some b := by
  induction actions generalizing run with
  | nil => exact hkept
  | cons action actions ih =>
    have haction : action ≠ .clear := fun heq => hactions (heq ▸ List.mem_cons_self)
    exact ih (find?_entries_step hkept haction) fun hmem =>
      hactions (List.mem_cons_of_mem _ hmem)

/-- What is found while the cache is enabled is kept. -/
theorem find?_entries_of_answer {b : BuiltMetadata} (henabled : run.cache.enabled = true)
    (hanswer : run.answer id = .ok b) :
    (run.step (.find id)).cache.entries.find? id = some b := by
  rcases step_find_of_answer_eq_ok hanswer with ⟨-, hkept, hstep⟩ | ⟨-, -, -, hstep⟩
  · rwa [hstep]
  · rw [hstep]
    simp [henabled]

/-- What is kept is found while the cache is enabled. -/
theorem answer_of_find?_entries {b : BuiltMetadata} (henabled : run.cache.enabled = true)
    (hkept : run.cache.entries.find? id = some b) : run.answer id = .ok b := by
  simp [answer, MetadataCache.find, henabled, hkept]

/-- A lookup changes what is kept only by what it has found while the cache was enabled. -/
theorem contains_of_contains_step_find {other : ClassId}
    (hcontains : (run.step (.find other)).cache.contains id = true) :
    run.cache.contains id = true ∨
      other = id ∧ run.cache.enabled = true ∧ ∃ b, run.answer id = .ok b := by
  cases hanswer : run.answer other with
  | error e =>
    rw [(step_find_of_answer_eq_error hanswer).2] at hcontains
    exact .inl hcontains
  | ok b =>
    rcases step_find_of_answer_eq_ok hanswer with ⟨-, -, hstep⟩ | ⟨-, -, -, hstep⟩
    · rw [hstep] at hcontains
      exact .inl hcontains
    · rw [hstep] at hcontains
      by_cases heq : other = id
      · subst heq
        cases henabled : run.cache.enabled with
        | true => exact .inr ⟨rfl, rfl, b, hanswer⟩
        | false =>
          simp only [henabled, Bool.false_eq_true, if_false] at hcontains
          exact .inl hcontains
      · refine .inl ?_
        simp only [MetadataCache.contains, Assoc.contains] at hcontains ⊢
        split at hcontains
        · rwa [Assoc.find?_insert_of_ne _ _ (Ne.symm heq)] at hcontains
        · exact hcontains

/-- A class is kept after an action if it was kept and the cache is not cleared, or if it has just
been found while the cache was enabled. -/
theorem contains_step_iff (action : CacheAction) :
    (run.step action).cache.contains id = true ↔
      (action ≠ .clear ∧ run.cache.contains id = true) ∨
        (action = .find id ∧ run.cache.enabled = true ∧ ∃ b, run.answer id = .ok b) := by
  constructor
  · intro hcontains
    obtain ⟨other, rfl⟩ | ⟨on, rfl⟩ | rfl | ⟨hkeep, hcache, -⟩ := run.step_cases action
    · rcases contains_of_contains_step_find hcontains with hkept | ⟨rfl, hfound⟩
      · exact .inl ⟨nofun, hkept⟩
      · exact .inr ⟨rfl, hfound⟩
    · exact .inl ⟨nofun, hcontains⟩
    · simp [step, MetadataCache.clear, MetadataCache.contains, Assoc.contains] at hcontains
    · rw [hcache] at hcontains
      exact .inl ⟨hkeep, hcontains⟩
  · rintro (⟨haction, hkept⟩ | ⟨rfl, henabled, b, hb⟩)
    · obtain ⟨b, hb⟩ := Option.isSome_iff_exists.1 hkept
      exact Option.isSome_iff_exists.2 ⟨b, find?_entries_step hb haction⟩
    · exact Option.isSome_iff_exists.2 ⟨b, find?_entries_of_answer henabled hb⟩

/-- In the run of some actions a class has been found while the cache was enabled, and the cache has
not been cleared since. -/
def FoundSince (r : Registry) (s : State) (actions : List CacheAction) (id : ClassId) : Prop :=
  ∃ before since, actions = before ++ .find id :: since ∧
    (after r s before).cache.enabled = true ∧ (∃ b, (after r s before).answer id = .ok b) ∧
      .clear ∉ since

/-- What has been found since the cache was cleared after one more action. -/
theorem foundSince_append_singleton_iff {action : CacheAction} :
    FoundSince r s (actions ++ [action]) id ↔
      (action ≠ .clear ∧ FoundSince r s actions id) ∨
        (action = .find id ∧ (after r s actions).cache.enabled = true ∧
          ∃ b, (after r s actions).answer id = .ok b) := by
  constructor
  · rintro ⟨before, since, heq, henabled, hfound, hclear⟩
    induction since using List.reverseRecOn with
    | nil =>
      obtain ⟨rfl, hlast⟩ := List.append_inj' heq rfl
      cases hlast
      exact .inr ⟨rfl, henabled, hfound⟩
    | append_singleton since last =>
      rw [← List.cons_append, ← List.append_assoc] at heq
      obtain ⟨rfl, hlast⟩ := List.append_inj' heq rfl
      cases hlast
      refine .inl ⟨?_, before, since, rfl, henabled, hfound, fun hmem => ?_⟩
      · rintro rfl
        exact hclear (by simp)
      · exact hclear (List.mem_append_left _ hmem)
  · rintro (⟨haction, before, since, rfl, henabled, hfound, hclear⟩ | ⟨rfl, henabled, hfound⟩)
    · refine ⟨before, since ++ [action], by simp, henabled, hfound, fun hmem => ?_⟩
      rcases List.mem_append.1 hmem with hold | hnew
      · exact hclear hold
      · exact haction (List.mem_singleton.1 hnew).symm
    · exact ⟨actions, [], rfl, henabled, hfound, List.not_mem_nil⟩

/-- After a run those classes are kept that have been found since the cache was cleared. -/
theorem contains_after_iff :
    (after r s actions).cache.contains id = true ↔ FoundSince r s actions id := by
  induction actions using List.reverseRecOn with
  | nil => simp [after, start, MetadataCache.ofRegistry, MetadataCache.contains, Assoc.contains,
      FoundSince]
  | append_singleton actions action ih =>
    rw [after_append_singleton, contains_step_iff, foundSince_append_singleton_iff, ih]

/-! ### Observations -/

/-- What can be observed of a lookup after the run of some actions. -/
structure Transparent (r : Registry) (s : State) (actions : List CacheAction) (id : ClassId) :
    Prop where
  /-- A lookup succeeds exactly for registered classes. -/
  answer_iff : (∃ b, (after r s actions).answer id = .ok b) ↔ ∃ c, r.class? id = some c
  /-- What it returns is equal to what is built anew. -/
  same_ofClass : ∀ b, (after r s actions).answer id = .ok b →
    ∃ m, Metadata.ofClass r id = .ok m ∧ b.metadata.same m = true
  /-- While the cache is enabled, what has been found while it was enabled is found again as the
  same instance, as long as the cache is not cleared. -/
  answer_again : ∀ between, .clear ∉ between → (after r s actions).cache.enabled = true →
    (after r s (actions ++ .find id :: between)).cache.enabled = true →
      ∀ b, (after r s actions).answer id = .ok b →
        (after r s (actions ++ .find id :: between)).answer id = .ok b
  /-- While the cache is disabled, a lookup returns a new instance and changes nothing that is
  kept. -/
  new_of_disabled : (after r s actions).cache.enabled = false →
    (after r s (actions ++ [.find id])).cache.entries = (after r s actions).cache.entries ∧
      ∀ b, (after r s actions).answer id = .ok b →
        ∀ earlier ∈ (after r s actions).returned, earlier.serial ≠ b.serial
  /-- A lookup that fails changes nothing that is kept. -/
  entries_of_error : ∀ e, (after r s actions).answer id = .error e →
    (after r s (actions ++ [.find id])).cache.entries = (after r s actions).cache.entries
  /-- The classes kept are those that have been found since the cache was cleared. -/
  contains_iff : (after r s actions).cache.contains id = true ↔ FoundSince r s actions id
  /-- No class is kept twice, so the size of the cache is the number of these classes. -/
  nodup_keys : (after r s actions).cache.entries.keys.Nodup

/-- What a lookup returns is what would be built anew. -/
theorem Valid.ofClass_of_answer (hrun : run.Valid r) {b : BuiltMetadata}
    (hanswer : run.answer id = .ok b) : Metadata.ofClass r id = .ok b.metadata := by
  rcases step_find_of_answer_eq_ok hanswer with ⟨-, hkept, -⟩ | ⟨hbuilt, -⟩
  · exact hrun.ofClass_eq hkept
  · rwa [← hrun.registry_eq]

/-- A lookup succeeds where building anew does. -/
theorem Valid.exists_answer_eq_ok (hrun : run.Valid r) {m : Metadata}
    (hm : Metadata.ofClass r id = .ok m) : ∃ b, run.answer id = .ok b := by
  cases hanswer : run.answer id with
  | ok b => exact ⟨b, rfl⟩
  | error e =>
    have hfailed := (step_find_of_answer_eq_error hanswer).1
    rw [hrun.registry_eq, hm] at hfailed
    cases hfailed

/-- While the cache is disabled, what a lookup returns is new and is not kept. -/
theorem Valid.find_of_disabled (hrun : run.Valid r) (hdisabled : run.cache.enabled = false) :
    (run.step (.find id)).cache.entries = run.cache.entries ∧
      ∀ b, run.answer id = .ok b → ∀ earlier ∈ run.returned, earlier.serial ≠ b.serial := by
  cases hanswer : run.answer id with
  | error e => exact ⟨by rw [(step_find_of_answer_eq_error hanswer).2], nofun⟩
  | ok b =>
    rcases step_find_of_answer_eq_ok hanswer with ⟨henabled, -⟩ | ⟨-, hserial, -, hstep⟩
    · rw [hdisabled] at henabled
      cases henabled
    · refine ⟨by simp [hstep, hdisabled], fun b' hb' earlier hearlier => ?_⟩
      cases hb'
      rw [hserial]
      exact Nat.ne_of_lt (hrun.returned_lt earlier hearlier)

/-- After every run of a cache over a reachable registry, lookups are transparent. -/
theorem transparent (h : r.Reachable) (s : State) (actions : List CacheAction) (id : ClassId) :
    Transparent r s actions id := by
  have hrun := valid_after r s actions
  refine ⟨?answer_iff, ?same_ofClass, ?answer_again, ?new_of_disabled, ?entries_of_error,
    contains_after_iff, (after r s actions).cache.entries.nodup⟩
  case answer_iff =>
    constructor
    · rintro ⟨b, hb⟩
      obtain ⟨c, methods, fields, hc, -⟩ := Metadata.exists_origin (hrun.ofClass_of_answer hb)
      exact ⟨c, hc⟩
    · rintro ⟨c, hc⟩
      obtain ⟨m, hm⟩ := Metadata.exists_ofClass_eq_ok h.wellFormed hc
      exact hrun.exists_answer_eq_ok hm
  case same_ofClass =>
    exact fun b hb => ⟨b.metadata, hrun.ofClass_of_answer hb, b.metadata.same_self⟩
  case answer_again =>
    intro between hclear henabled hagain b hb
    have hsplit : after r s (actions ++ .find id :: between) =
        between.foldl step ((after r s actions).step (.find id)) := by
      simp [after]
    rw [hsplit] at hagain ⊢
    have hkept := find?_entries_foldl (find?_entries_of_answer henabled hb) hclear
    exact answer_of_find?_entries hagain hkept
  case new_of_disabled =>
    intro hdisabled
    rw [after_append_singleton]
    exact hrun.find_of_disabled hdisabled
  case entries_of_error =>
    intro e he
    rw [after_append_singleton]
    rw [(step_find_of_answer_eq_error he).2]

/-- A run in which a class is found, found again while the cache is disabled, and the cache is
enabled again, with an object made and the permissions taken away in between. -/
def toggledActions : List CacheAction :=
  [.find ⟨1⟩, .construct 0, .setEnabled false, .find ⟨1⟩, .changePermissions (·.setGlobal .nothing),
    .setEnabled true]

/-- The class is found as the first instance once more, and is all that is kept. -/
theorem toggledActions_transparent :
    Transparent .initial .initial toggledActions ⟨1⟩ ∧
      ((after .initial .initial toggledActions).returned.map (·.serial)) = [0, 1] ∧
      ((after .initial .initial toggledActions).answer ⟨1⟩).toOption.map (·.serial) = some 0 ∧
      (after .initial .initial toggledActions).cache.size = 1 :=
  ⟨transparent .initial .initial toggledActions ⟨1⟩, by decide +kernel, by decide +kernel,
    by decide +kernel⟩

end CacheRun

end Introspection
