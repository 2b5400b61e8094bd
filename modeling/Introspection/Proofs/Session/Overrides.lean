import Introspection.Proofs.Metadata.Kinds
import Introspection.Proofs.Session.Calls
import Mathlib

/-!
# Overrides along runs

`mem_overrides_step` says which overrides one action can set, and `exists_grant_of_mem_overrides`
follows a set override back to the action of the run that was granted it.  Since the members behind
accessors keep their kinds along every run (`wellKinded_run`), the override of a field goes back to
an accessor of this field.

The override is one flag for reads and writes and stays set, so the permission for one kind of
access opens a field for the other one as well (`field_written_after_read`).  What can be said of
every run is `field_access_granted`.
-/

namespace Introspection.Session

variable {s : Session} {action : Action}

/-! ### Overrides -/

/-- An override that is set after an action was set before, or the action uses the member, and the
permissions of the declaring class contain the flag. -/
theorem mem_overrides_step {id : MemberId} (hid : id ∈ (s.step action).state.overrides) :
    id ∈ s.state.overrides ∨ ∃ m kind, s.use? action = some (m, kind) ∧ m.id = id ∧
      s.state.permissions.canControl m.declaring kind = true := by
  cases houtcome : s.outcome? action with
  | none =>
    rw [overrides_step_of_outcome?_eq_none houtcome] at hid
    exact .inl hid
  | some outcome =>
    rw [state_step_of_outcome? houtcome] at hid
    exact mem_overrides_outcome? houtcome hid

/-- Every override that is set at the end of a run has been granted: some action of the run uses the
member, at a time when the permissions of the declaring class contain the flag. -/
theorem exists_grant_of_mem_overrides (actions : List Action) {id : MemberId}
    (hid : id ∈ (run actions).state.overrides) :
    ∃ before action after m kind, actions = before ++ action :: after ∧
      (run before).use? action = some (m, kind) ∧ m.id = id ∧
        (run before).state.permissions.canControl m.declaring kind = true := by
  induction actions using List.reverseRecOn with
  | nil => simp [run, initial, State.initial] at hid
  | append_singleton actions action ih =>
    rw [run_append] at hid
    rcases mem_overrides_step hid with hold | ⟨m, kind, huse, hm, hcontrol⟩
    · obtain ⟨before, earlier, after, m, kind, hactions, hgrant⟩ := ih hold
      exact ⟨before, earlier, after ++ [action], m, kind, by simp [hactions], hgrant⟩
    · exact ⟨actions, action, [], m, kind, rfl, huse, hm, hcontrol⟩

/-! ### Kinds -/

/-- The members of classes and those behind accessors are of the right kind. -/
structure WellKinded (s : Session) : Prop where
  /-- So are those of the registered classes. -/
  registry : s.registry.WellKinded
  /-- So are those in the metadata. -/
  metadata : ∀ m ∈ s.built, m.WellKinded

/-- Actions preserve the kinds of members. -/
theorem WellKinded.step (hs : s.WellKinded) (action : Action) : (s.step action).WellKinded := by
  have hpermissions : ∀ p, (s.withPermissions p).WellKinded := fun _ => ⟨hs.registry, hs.metadata⟩
  cases action with
  | registry call => exact ⟨hs.registry.after call, hs.metadata⟩
  | setGlobal p => exact hpermissions _
  | setClass owner p => exact hpermissions _
  | clearClass owner => exact hpermissions _
  | sealClass owner => exact hpermissions _
  | configure c =>
    unfold Session.step
    dsimp only
    split
    · exact hpermissions _
    · exact hs
  | build owner =>
    unfold Session.step
    dsimp only
    split
    · next m hm =>
      refine ⟨hs.registry, fun m' hm' => ?_⟩
      rcases List.mem_append.1 hm' with hold | hnew
      · exact hs.metadata m' hold
      · rw [List.mem_singleton.1 hnew]
        exact Metadata.wellKinded_of_ofClass hs.registry hm
    · exact hs
  | construct index =>
    unfold Session.step
    dsimp only
    split
    · exact ⟨hs.registry, hs.metadata⟩
    · exact hs
  | invoke index direction name target args =>
    unfold Session.step
    dsimp only
    split
    · exact ⟨hs.registry, hs.metadata⟩
    · exact hs

/-- Along every run members are of the right kind. -/
theorem wellKinded_run (actions : List Action) : (run actions).WellKinded := by
  induction actions using List.reverseRecOn with
  | nil => exact ⟨Registry.wellKinded_initial, by simp [run, initial]⟩
  | append_singleton actions action ih =>
    rw [run_append]
    exact ih.step action

/-- Along every run accessors use members of the kind they are made for. -/
theorem WellKinded.accessor (hs : s.WellKinded) {index : Nat} {direction : Direction}
    {name : String} {a : Accessor} (ha : s.accessor? index direction name = some a) :
    a.WellKinded := by
  obtain ⟨m, hm, ha⟩ := Option.bind_eq_some_iff.1 ha
  exact (hs.metadata m (List.mem_of_getElem? hm)).accessor ha

/-- Only accessors of a field use the field. -/
theorem WellKinded.exists_fieldAccess? (hs : s.WellKinded) {m : Member} {kind : AccessKind}
    (huse : s.use? action = some (m, kind)) (hkind : m.id.kind = .field) :
    ∃ f, s.fieldAccess? action = some (f, kind) ∧ f.toMember = m := by
  cases action with
  | construct index =>
    obtain ⟨c, hc, heq⟩ := Option.map_eq_some_iff.1 huse
    obtain ⟨built, hbuilt, hc⟩ := Option.bind_eq_some_iff.1 hc
    have hconstructor := (hs.metadata built (List.mem_of_getElem? hbuilt)).constructor hc
    cases heq
    rw [hkind] at hconstructor
    cases hconstructor
  | invoke index direction name target args =>
    obtain ⟨a, ha, heq⟩ := Option.bind_eq_some_iff.1 huse
    obtain ⟨kind', hkind', heq⟩ := Option.map_eq_some_iff.1 heq
    have hkinded := hs.accessor ha
    cases heq
    cases a with
    | readField f =>
      cases hkind'
      exact ⟨f, by simp [fieldAccess?, ha, Accessor.fieldAccess?], rfl⟩
    | writeField f =>
      cases hkind'
      exact ⟨f, by simp [fieldAccess?, ha, Accessor.fieldAccess?], rfl⟩
    | method m =>
      have hmethod : m.id.kind = .method := hkinded
      have hfield : m.id.kind = .field := hkind
      rw [hmethod] at hfield
      cases hfield
    | ambiguous m cause => cases hkind'
  | _ => cases huse

/-! ### Field accessors -/

/-- An accessor that reads or writes a field directly has the field as its member. -/
theorem member_of_fieldAccess?_eq_some {a : Accessor} {f : Field} {kind : AccessKind}
    (ha : a.fieldAccess? = some (f, kind)) : a.member = f.toMember ∧ a.access? = some kind := by
  cases a with
  | readField g =>
    cases ha
    exact ⟨rfl, rfl⟩
  | writeField g =>
    cases ha
    exact ⟨rfl, rfl⟩
  | method m => cases ha
  | ambiguous m cause => cases ha

/-- A field that is not public and for which the flag is missing can only be read or written with
its override set, unless the accessor fails and leaves everything as it was. -/
theorem mem_overrides_of_effect {index : Nat} {direction : Direction} {name : String}
    {target : Value} {args : List Value} {f : Field} {kind : AccessKind}
    (haccess : s.fieldAccess? (.invoke index direction name target args) = some (f, kind))
    (hprivate : f.modifiers.isPublic = false)
    (heffect : ∀ e, s.invoke index direction name target args ≠ some (.error e, s.state))
    (hcontrol : s.state.permissions.canControl f.declaring kind = false) :
    f.id ∈ s.state.overrides := by
  obtain ⟨a, ha, hfield⟩ := Option.bind_eq_some_iff.1 haccess
  obtain ⟨hmember, hkind⟩ := member_of_fieldAccess?_eq_some hfield
  by_contra hnot
  have hpermits : s.state.permits a.member = false := by
    rw [hmember]
    simp [State.permits, hprivate, State.isAccessible, hnot]
  obtain ⟨e, he⟩ : ∃ e, a.invoke s.state target args = (.error e, s.state) := by
    refine Accessor.invoke_eq_of_refused hpermits fun kind' hkind' => ?_
    rw [hkind] at hkind'
    cases hkind'
    rw [Accessor.declaring, hmember]
    exact hcontrol
  exact heffect e (by rw [invoke_eq_of_accessor? ha, he])

/-- In every run, an accessor of a field that is not public takes effect only if the permissions of
the declaring class contain the flag for this kind of access at the time, or if an accessor of the
same field was used earlier in the run, and they contained the flag for that kind of access then.
To take no effect is to fail and to leave everything as it was. -/
theorem field_access_granted (actions : List Action) {index : Nat} {direction : Direction}
    {name : String} {target : Value} {args : List Value} {f : Field} {kind : AccessKind}
    (haccess : (run actions).fieldAccess? (.invoke index direction name target args) =
      some (f, kind)) (hprivate : f.modifiers.isPublic = false)
    (heffect : ∀ e, (run actions).invoke index direction name target args ≠
      some (.error e, (run actions).state)) :
    ((run actions).state.permissions.resolve f.declaring).contains kind.privateFlag = true ∨
      ∃ before action after g earlier, actions = before ++ action :: after ∧
        (run before).fieldAccess? action = some (g, earlier) ∧ g.id = f.id ∧
          ((run before).state.permissions.resolve f.declaring).contains earlier.privateFlag =
            true := by
  cases hcontrol : (run actions).state.permissions.canControl f.declaring kind with
  | true => exact .inl hcontrol
  | false =>
    right
    have hid : f.id ∈ (run actions).state.overrides :=
      mem_overrides_of_effect haccess hprivate heffect hcontrol
    obtain ⟨before, action, after, m, earlier, hactions, huse, hm, hgranted⟩ :=
      exists_grant_of_mem_overrides actions hid
    have hfield : m.id.kind = .field := by
      obtain ⟨a, ha, hfield⟩ := Option.bind_eq_some_iff.1 haccess
      have hkinded := (wellKinded_run actions).accessor ha
      rw [hm]
      cases a with
      | readField g =>
        cases hfield
        exact hkinded
      | writeField g =>
        cases hfield
        exact hkinded
      | method m => cases hfield
      | ambiguous m cause => cases hfield
    obtain ⟨g, hg, rfl⟩ := (wellKinded_run before).exists_fieldAccess? huse hfield
    refine ⟨before, action, after, g, earlier, hactions, hg, hm, ?_⟩
    rw [show f.declaring = g.declaring by rw [Member.declaring, Member.declaring, hm]]
    exact hgranted

/-- The private field of a class of secrets. -/
def secretDraft : ClassDraft :=
  (ClassDraft.ofKind ⟨7⟩ "Secret" .ordinary).withField
    ⟨"token", .ofClass ⟨1⟩, .privateFlag, .str "original"⟩

/-- A secret. -/
def secret : Value := .object ⟨⟨7⟩, 0⟩

/-- A run in which a secret is made and read while private fields may be read but not written. -/
def readingRun : List Action :=
  [.registry (.reserve "Secret" .ordinary), .registry (.register secretDraft),
    .setClass ⟨7⟩ .readPrivate, .build ⟨7⟩, .construct 0, .invoke 0 .get "token" secret []]

/-- The field of a registered secret. -/
def token : Field where
  id := ⟨⟨7⟩, .field, 0⟩
  name := "token"
  ownerName := "Secret"
  modifiers := .privateFlag
  type := .ofClass ⟨1⟩
  initial := .str "original"

/-- After the field has been read it can be written, although the flag for writing is missing. -/
theorem field_written_after_read :
    let s := run readingRun
    let s' := s.step (.invoke 0 .set "token" secret [.str "changed"])
    s.fieldAccess? (.invoke 0 .set "token" secret [.str "changed"]) = some (token, .write) ∧
      token.modifiers.isPublic = false ∧
      (s.state.permissions.resolve token.declaring).contains .writePrivate = false ∧
      s.state.heap.read? ⟨⟨7⟩, 0⟩ (.key token.key) = some (.str "original") ∧
      s'.state.heap.read? ⟨⟨7⟩, 0⟩ (.key token.key) = some (.str "changed") :=
  ⟨by cbv, by decide, by cbv, by cbv, by cbv⟩

/-- The field could be written because it was read earlier in the run, with the flag for reading. -/
theorem readingRun_granted :
    ∃ before action after g, readingRun = before ++ action :: after ∧
      (run before).fieldAccess? action = some (g, .read) ∧ g.id = token.id ∧
        ((run before).state.permissions.resolve token.declaring).contains .readPrivate = true := by
  have haccess : (run readingRun).fieldAccess? (.invoke 0 .set "token" secret [.str "changed"]) =
      some (token, .write) := by cbv
  have hwritten : ((run readingRun).invoke 0 .set "token" secret [.str "changed"]).map
      (fun outcome => outcome.1.isOk) = some true := by cbv
  have hmissing : ((run readingRun).state.permissions.resolve token.declaring).contains
      AccessKind.write.privateFlag = false := by cbv
  -- no action of the run writes a field
  have hreads : ((List.range readingRun.length).all fun i =>
      (readingRun[i]?.bind (run (readingRun.take i)).fieldAccess?).all (·.2 = .read)) = true := by
    cbv
  obtain ⟨before, action, after, g, earlier, hactions, huse, hid, hgranted⟩ :=
    (field_access_granted readingRun haccess (by decide) fun e he => by
      rw [he] at hwritten
      simp [Except.isOk, Except.toBool] at hwritten).resolve_left (by simp [hmissing])
  obtain rfl : earlier = .read := by
    have hlength : before.length < readingRun.length := by simp [hactions]
    have hall := List.all_eq_true.1 hreads _ (List.mem_range.2 hlength)
    rw [show readingRun[before.length]? = some action by simp [hactions],
      show readingRun.take before.length = before by simp [hactions]] at hall
    simpa [huse] using hall
  exact ⟨before, action, after, g, hactions, huse, hid, hgranted⟩

end Introspection.Session
