import Introspection.Metadata.Cache
import Mathlib.Data.List.Induction

/-!
# Runs of a cache

A cache is used in a run: metadata is looked up, the cache is turned on and off and cleared, and in
between the metadata that has been returned is used and permissions change in whatever way.

A lookup returns what is kept, or it builds (`CacheRun.step_find_of_answer_eq_ok`), or it fails and
changes nothing (`CacheRun.step_find_of_answer_eq_error`).  `CacheRun.Valid` is the invariant of
runs: what is kept is what would be built anew, and the next serial number has not been used.  It
holds after every run (`CacheRun.valid_after`).
-/

namespace Introspection

/-- What is kept is returned, if the cache is enabled; or metadata is built, and kept if the cache is
enabled; or none can be built, and nothing changes. -/
theorem MetadataCache.find_cases (cache : MetadataCache) (id : ClassId) :
    (∃ b, cache.enabled = true ∧ cache.entries.find? id = some b ∧
      cache.find id = (.ok b, cache)) ∨
    (∃ b, Metadata.ofClass cache.registry id = .ok b.metadata ∧ b.serial = cache.nextSerial ∧
      (cache.enabled = true → cache.entries.find? id = none) ∧
        cache.find id = (.ok b,
          { cache with
            entries := if cache.enabled then cache.entries.insert id b else cache.entries
            nextSerial := cache.nextSerial + 1 })) ∨
    ∃ e, Metadata.ofClass cache.registry id = .error e ∧ cache.find id = (.error e, cache) := by
  unfold find build
  cases hbuilt : Metadata.ofClass cache.registry id with
  | ok m =>
    cases henabled : cache.enabled with
    | true =>
      cases hkept : cache.entries.find? id with
      | some b => exact .inl ⟨b, rfl, rfl, rfl⟩
      | none => exact .inr (.inl ⟨⟨cache.nextSerial, m⟩, rfl, rfl, fun _ => rfl, by simp⟩)
    | false => exact .inr (.inl ⟨⟨cache.nextSerial, m⟩, rfl, rfl, nofun, by simp⟩)
  | error e =>
    cases henabled : cache.enabled with
    | true =>
      cases hkept : cache.entries.find? id with
      | some b => exact .inl ⟨b, rfl, rfl, rfl⟩
      | none => exact .inr (.inr ⟨e, rfl, rfl⟩)
    | false => exact .inr (.inr ⟨e, rfl, rfl⟩)

/-! ### Runs -/

/-- What can be done with a cache, and with the metadata that it has returned. -/
inductive CacheAction where
  /-- Looks the metadata of a class up. -/
  | find (id : ClassId)
  /-- Turns the cache on or off. -/
  | setEnabled (on : Bool)
  /-- Drops everything that is kept. -/
  | clear
  /-- Changes the permissions in some way. -/
  | changePermissions (change : PermissionStore → PermissionStore)
  /-- Makes an object with the metadata returned at a place. -/
  | construct (index : Nat)
  /-- Uses an accessor in the metadata returned at a place. -/
  | invoke (index : Nat) (direction : Direction) (name : String) (target : Value)
    (args : List Value)

/-- A cache with all that changes while it is used. -/
structure CacheRun where
  /-- The cache. -/
  cache : MetadataCache
  /-- The objects, overrides and permissions. -/
  state : State
  /-- What lookups have returned so far. -/
  returned : List BuiltMetadata

namespace CacheRun

/-- A new cache over a registry. -/
def start (r : Registry) (s : State) : CacheRun := ⟨.ofRegistry r, s, []⟩

/-- What a lookup returns. -/
def answer (run : CacheRun) (id : ClassId) : Except ReflectionError BuiltMetadata :=
  (run.cache.find id).1

/-- The run after one more action. -/
def step (run : CacheRun) : CacheAction → CacheRun
  | .find id =>
    { run with
      cache := (run.cache.find id).2
      returned := run.returned ++ (run.answer id).toOption.toList }
  | .setEnabled on => { run with cache := run.cache.setEnabled on }
  | .clear => { run with cache := run.cache.clear }
  | .changePermissions change =>
    { run with state := { run.state with permissions := change run.state.permissions } }
  | .construct index =>
    match run.returned[index]? with
    | some b => { run with state := (b.metadata.newInstance run.state).2 }
    | none => run
  | .invoke index direction name target args =>
    match run.returned[index]? with
    | some b => { run with state := (b.metadata.invoke run.state direction name target args).2 }
    | none => run

/-- The run of some actions with a new cache over a registry. -/
def after (r : Registry) (s : State) (actions : List CacheAction) : CacheRun :=
  actions.foldl step (start r s)

theorem after_append_singleton (r : Registry) (s : State) (actions : List CacheAction)
    (action : CacheAction) : after r s (actions ++ [action]) = (after r s actions).step action := by
  simp [after]

variable {r : Registry} {run : CacheRun} {id : ClassId}

/-- Apart from lookups, and from turning it on and off and clearing it, nothing concerns the cache
and what it has returned. -/
theorem step_cases (run : CacheRun) (action : CacheAction) :
    (∃ id, action = .find id) ∨ (∃ on, action = .setEnabled on) ∨ action = .clear ∨
      action ≠ .clear ∧ (run.step action).cache = run.cache ∧
        (run.step action).returned = run.returned := by
  cases action with
  | find id => exact .inl ⟨id, rfl⟩
  | setEnabled on => exact .inr (.inl ⟨on, rfl⟩)
  | clear => exact .inr (.inr (.inl rfl))
  | changePermissions change => exact .inr (.inr (.inr ⟨nofun, rfl, rfl⟩))
  | construct index =>
    refine .inr (.inr (.inr ⟨nofun, ?_⟩))
    unfold step
    dsimp only
    split <;> exact ⟨rfl, rfl⟩
  | invoke index direction name target args =>
    refine .inr (.inr (.inr ⟨nofun, ?_⟩))
    unfold step
    dsimp only
    split <;> exact ⟨rfl, rfl⟩

/-! ### Lookups -/

/-- A lookup that succeeds returns what is kept, if the cache is enabled, or else it builds, and
keeps what it has built if the cache is enabled. -/
theorem step_find_of_answer_eq_ok {b : BuiltMetadata} (hanswer : run.answer id = .ok b) :
    (run.cache.enabled = true ∧ run.cache.entries.find? id = some b ∧
      run.step (.find id) = { run with returned := run.returned ++ [b] }) ∨
    (Metadata.ofClass run.cache.registry id = .ok b.metadata ∧ b.serial = run.cache.nextSerial ∧
      (run.cache.enabled = true → run.cache.entries.find? id = none) ∧
        run.step (.find id) =
          { run with
            cache :=
              { run.cache with
                entries :=
                  if run.cache.enabled then run.cache.entries.insert id b else run.cache.entries
                nextSerial := run.cache.nextSerial + 1 }
            returned := run.returned ++ [b] }) := by
  have hstep : run.step (.find id) =
      { run with cache := (run.cache.find id).2, returned := run.returned ++ [b] } := by
    simp [step, hanswer, Except.toOption]
  rw [hstep]
  unfold answer at hanswer
  obtain ⟨b', henabled, hkept, hfind⟩ | ⟨b', hbuilt, hserial, hnone, hfind⟩ | ⟨e, -, hfind⟩ :=
    run.cache.find_cases id
  all_goals rw [hfind] at hanswer ⊢; cases hanswer
  · exact .inl ⟨henabled, hkept, rfl⟩
  · exact .inr ⟨hbuilt, hserial, hnone, rfl⟩

/-- A lookup that fails changes nothing. -/
theorem step_find_of_answer_eq_error {e : ReflectionError} (hanswer : run.answer id = .error e) :
    Metadata.ofClass run.cache.registry id = .error e ∧ run.step (.find id) = run := by
  have hstep : run.step (.find id) = { run with cache := (run.cache.find id).2 } := by
    simp [step, hanswer, Except.toOption]
  rw [hstep]
  unfold answer at hanswer
  obtain ⟨b, -, -, hfind⟩ | ⟨b, -, -, -, hfind⟩ | ⟨e', hfailed, hfind⟩ := run.cache.find_cases id
  all_goals rw [hfind] at hanswer ⊢; cases hanswer
  exact ⟨hfailed, rfl⟩

/-! ### The invariant -/

/-- What is kept and what has been returned fits the registry. -/
structure Valid (r : Registry) (run : CacheRun) : Prop where
  /-- The cache looks into the registry. -/
  registry_eq : run.cache.registry = r
  /-- What is kept for a class is what would be built anew. -/
  ofClass_eq : ∀ {id b}, run.cache.entries.find? id = some b →
    Metadata.ofClass r id = .ok b.metadata
  /-- The next number is new among what is kept. -/
  kept_lt : ∀ {id b}, run.cache.entries.find? id = some b → b.serial < run.cache.nextSerial
  /-- The next number is new among what has been returned. -/
  returned_lt : ∀ b ∈ run.returned, b.serial < run.cache.nextSerial

/-- A new cache is valid. -/
theorem valid_start (r : Registry) (s : State) : (start r s).Valid r where
  registry_eq := rfl
  ofClass_eq hkept := by simp [start, MetadataCache.ofRegistry] at hkept
  kept_lt hkept := by simp [start, MetadataCache.ofRegistry] at hkept
  returned_lt b hb := by cases hb

/-- A lookup keeps the run valid. -/
theorem Valid.find (hrun : run.Valid r) (id : ClassId) : (run.step (.find id)).Valid r := by
  cases hanswer : run.answer id with
  | error e =>
    rw [(step_find_of_answer_eq_error hanswer).2]
    exact hrun
  | ok b =>
    rcases step_find_of_answer_eq_ok hanswer with ⟨-, hkept, hstep⟩ | ⟨hbuilt, hserial, -, hstep⟩
    · -- what is kept is returned once more
      rw [hstep]
      refine ⟨hrun.registry_eq, hrun.ofClass_eq, hrun.kept_lt, fun b' hb' => ?_⟩
      rcases List.mem_append.1 hb' with hold | hnew
      · exact hrun.returned_lt b' hold
      · rw [List.mem_singleton.1 hnew]
        exact hrun.kept_lt hkept
    · rw [hrun.registry_eq] at hbuilt
      have hnew : b.serial < run.cache.nextSerial + 1 := by omega
      have hentry : ∀ {other b'}, (if run.cache.enabled then run.cache.entries.insert id b
          else run.cache.entries).find? other = some b' →
            other = id ∧ b' = b ∨ run.cache.entries.find? other = some b' := by
        intro other b' hb'
        split at hb'
        · rw [Assoc.find?_insert] at hb'
          split at hb'
          · next heq => exact .inl ⟨heq, (Option.some.inj hb').symm⟩
          · exact .inr hb'
        · exact .inr hb'
      rw [hstep]
      refine ⟨hrun.registry_eq, fun hb' => ?_, fun hb' => ?_, fun b' hb' => ?_⟩
      · rcases hentry hb' with ⟨rfl, rfl⟩ | hold
        · exact hbuilt
        · exact hrun.ofClass_eq hold
      · rcases hentry hb' with ⟨rfl, rfl⟩ | hold
        · exact hnew
        · exact Nat.lt_succ_of_lt (hrun.kept_lt hold)
      · rcases List.mem_append.1 hb' with hold | hlast
        · exact Nat.lt_succ_of_lt (hrun.returned_lt b' hold)
        · rw [List.mem_singleton.1 hlast]
          exact hnew

/-- Every action keeps the run valid. -/
theorem Valid.step (hrun : run.Valid r) (action : CacheAction) : (run.step action).Valid r := by
  obtain ⟨id, rfl⟩ | ⟨on, rfl⟩ | rfl | ⟨-, hcache, hreturned⟩ := run.step_cases action
  · exact hrun.find id
  · exact ⟨hrun.registry_eq, hrun.ofClass_eq, hrun.kept_lt, hrun.returned_lt⟩
  · refine ⟨hrun.registry_eq, fun hb => ?_, fun hb => ?_, hrun.returned_lt⟩
    · simp [CacheRun.step, MetadataCache.clear] at hb
    · simp [CacheRun.step, MetadataCache.clear] at hb
  · obtain ⟨hregistry, hfresh, hkept, hserial⟩ := hrun
    constructor <;> rw [hcache]
    · exact hregistry
    · exact hfresh
    · exact hkept
    · rwa [hreturned]

/-- After every run the cache is valid. -/
theorem valid_after (r : Registry) (s : State) (actions : List CacheAction) :
    (after r s actions).Valid r := by
  induction actions using List.reverseRecOn with
  | nil => exact valid_start r s
  | append_singleton actions action ih =>
    rw [after_append_singleton]
    exact ih.step action

end CacheRun

end Introspection
