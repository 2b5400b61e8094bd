import Introspection.Proofs.Session.Overrides

/-!
# Grants along runs

An override is set by a call that has been granted it and by nothing else, and it stays set
(`overrides_granted`).  So if the permissions of a class have lacked a flag whenever a member of the
class was used (`Withholds`), the calls that need the flag have not succeeded: not the accessors of
its restricted fields if both flags for fields are withheld, and not its restricted methods and
constructors if the flag for these is.

That the flags for fields do not open methods, and the other way round, is due to the kinds of
members (`WellKinded.invoke_iff`).
-/

namespace Introspection.Session

/-- Whenever an action of the run uses a member of the class, the permissions of the class lack the
flag for this kind of access.  Nothing is asked of the other states of the run: in the first one,
for instance, everything is allowed for every class. -/
def Withholds (actions : List Action) (id : ClassId) (kind : AccessKind) : Prop :=
  ∀ before action, before ++ [action] <+: actions →
    ∀ m used, (run before).use? action = some (m, used) → m.declaring = id →
      ((run before).state.permissions.resolve id).contains kind.privateFlag = false

variable {s : Session} {action : Action}

/-- An access to a field through an accessor of the field is a use of the field. -/
theorem use?_of_fieldAccess? {f : Field} {kind : AccessKind}
    (haccess : s.fieldAccess? action = some (f, kind)) :
    s.use? action = some (f.toMember, kind) := by
  cases action with
  | invoke index direction name target args =>
    obtain ⟨a, ha, haccess⟩ := Option.bind_eq_some_iff.1 haccess
    obtain ⟨hmember, hkind⟩ := member_of_fieldAccess?_eq_some haccess
    simp [use?, ha, hkind, hmember]
  | _ => cases haccess

/-- Fields are not invoked. -/
theorem ne_invoke_of_fieldAccess? {f : Field} {kind : AccessKind}
    (haccess : s.fieldAccess? action = some (f, kind)) : kind ≠ .invoke := by
  rintro rfl
  cases action with
  | invoke index direction name target args =>
    obtain ⟨a, -, ha⟩ := Option.bind_eq_some_iff.1 haccess
    cases a <;> cases ha
  | _ => cases haccess

/-- Methods and constructors are invoked, and fields are read or written. -/
theorem WellKinded.invoke_iff (hs : s.WellKinded) {m : Member} {kind : AccessKind}
    (huse : s.use? action = some (m, kind)) : kind = .invoke ↔ m.id.kind ≠ .field := by
  constructor
  · intro hinvoke hfield
    obtain ⟨f, hf, -⟩ := hs.exists_fieldAccess? huse hfield
    exact ne_invoke_of_fieldAccess? hf hinvoke
  · intro hmember
    cases action with
    | construct index =>
      obtain ⟨c, -, heq⟩ := Option.map_eq_some_iff.1 huse
      cases heq
      rfl
    | invoke index direction name target args =>
      obtain ⟨a, ha, heq⟩ := Option.bind_eq_some_iff.1 huse
      obtain ⟨kind', hkind, heq⟩ := Option.map_eq_some_iff.1 heq
      have hkinded : a.WellKinded := hs.accessor ha
      cases heq
      cases a with
      | method m =>
        cases hkind
        rfl
      | readField f => exact absurd hkinded hmember
      | writeField f => exact absurd hkinded hmember
      | ambiguous m cause => cases hkind
    | _ => cases huse

variable {actions : List Action}

namespace Withholds

/-- Without a use of a member there is nothing to withhold. -/
theorem of_use?_eq_none {id : ClassId} {kind : AccessKind}
    (h : ∀ action ∈ actions, ∀ s : Session, s.use? action = none) :
    Withholds actions id kind := by
  intro before action hbegins m used huse
  have hmem : action ∈ actions := hbegins.subset (by simp)
  rw [h action hmem] at huse
  cases huse

/-- What has been withheld along a run goes on to be withheld if the permissions lack the flag at
the end of the run. -/
theorem append_singleton {id : ClassId} {kind : AccessKind} (h : Withholds actions id kind)
    (hlast : ((run actions).state.permissions.resolve id).contains kind.privateFlag = false)
    (action : Action) : Withholds (actions ++ [action]) id kind := by
  intro before last hbegins m used huse hdeclaring
  rcases List.prefix_concat_iff.1 hbegins with heq | hbegins
  · obtain ⟨rfl, -⟩ := List.append_inj' heq rfl
    exact hlast
  · exact h before last hbegins m used huse hdeclaring

/-- What is withheld along a run is withheld along its beginning. -/
theorem of_append {id : ClassId} {kind : AccessKind}
    (h : Withholds (actions ++ [action]) id kind) : Withholds actions id kind :=
  fun before earlier hbegins => h before earlier (hbegins.trans (List.prefix_append _ _))

/-- The last action of a run that withholds a flag from a member does not find it. -/
theorem canControl_eq_false {m : Member} {used kind : AccessKind}
    (h : Withholds (actions ++ [action]) m.declaring kind)
    (huse : (run actions).use? action = some (m, used)) :
    (run actions).state.permissions.canControl m.declaring kind = false :=
  h actions action (List.prefix_refl _) m used huse rfl

/-- A member has no override after a run that has withheld the flags for every kind of access to
such members. -/
theorem isAccessible_eq_false {m : Member}
    (h : ∀ kind, (kind = .invoke ↔ m.id.kind ≠ .field) → Withholds actions m.declaring kind) :
    (run actions).state.isAccessible m.id = false := by
  by_contra hset
  have hmem : m.id ∈ (run actions).state.overrides := by
    simpa [State.isAccessible] using hset
  obtain ⟨before, call, after, granted, kind, rfl, huse, hid, hcontrol⟩ :=
    exists_grant_of_mem_overrides actions hmem
  have hdeclaring : granted.declaring = m.declaring := congrArg MemberId.owner hid
  have hkind : kind = .invoke ↔ m.id.kind ≠ .field :=
    hid ▸ (wellKinded_run before).invoke_iff huse
  -- the call that set the override found a flag that was withheld from it
  have hbegins : before ++ [call] <+: before ++ call :: after := ⟨after, by simp⟩
  have hmissing := h kind hkind before call hbegins granted kind huse hdeclaring
  rw [hdeclaring, PermissionStore.canControl, hmissing] at hcontrol
  cases hcontrol

end Withholds

/-! ### One more action -/

/-- An override that is set stays set. -/
theorem isAccessible_step {id : MemberId} (hset : s.state.isAccessible id = true)
    (action : Action) : (s.step action).state.isAccessible id = true := by
  have hmem : id ∈ s.state.overrides := by simpa [State.isAccessible] using hset
  simpa [State.isAccessible] using overrides_subset_step s action hmem

/-- An action that sets an override uses the member, at a time when the permissions of its class
contain the flag for this use. -/
theorem WellKinded.exists_grant_of_isAccessible_step (hs : s.WellKinded) {id : MemberId}
    (hunset : s.state.isAccessible id = false)
    (hset : (s.step action).state.isAccessible id = true) :
    ∃ m kind, s.use? action = some (m, kind) ∧ m.id = id ∧
      (kind = .invoke ↔ id.kind ≠ .field) ∧
        (s.state.permissions.resolve id.owner).contains kind.privateFlag = true := by
  have hmem : id ∈ (s.step action).state.overrides := by
    simpa [State.isAccessible] using hset
  have hnot : id ∉ s.state.overrides := by simpa [State.isAccessible] using hunset
  obtain ⟨m, kind, huse, rfl, hcontrol⟩ := (mem_overrides_step hmem).resolve_left hnot
  exact ⟨m, kind, huse, rfl, hs.invoke_iff huse, hcontrol⟩

/-- Where both flags for fields are withheld, accessors of restricted fields fail and leave
everything as it was. -/
theorem Withholds.exists_outcome?_eq_error {f : Field} {kind : AccessKind}
    (hread : Withholds (actions ++ [action]) f.declaring .read)
    (hwrite : Withholds (actions ++ [action]) f.declaring .write)
    (haccess : (run actions).fieldAccess? action = some (f, kind))
    (hrestricted : f.modifiers.isPublic = false ∨
      kind = .write ∧ f.modifiers.isFinal = true ∧ f.modifiers.isStatic = false) :
    ∃ e, (run actions).outcome? action = some (.error e, (run actions).state) := by
  have huse : (run actions).use? action = some (f.toMember, kind) := use?_of_fieldAccess? haccess
  have hkind : kind ≠ .invoke := ne_invoke_of_fieldAccess? haccess
  have hwithheld : ∀ used, used ≠ .invoke →
      Withholds (actions ++ [action]) f.declaring used := by
    rintro (_ | _ | _) hused
    · exact hread
    · exact hwrite
    · exact absurd rfl hused
  have hunset : (run actions).state.isAccessible f.id = false := by
    refine isAccessible_eq_false fun used hused => (hwithheld used ?_).of_append
    exact fun hinvoke => hkind (((wellKinded_run actions).invoke_iff huse).2 (hused.1 hinvoke))
  have hcontrol := (hwithheld kind hkind).canControl_eq_false huse
  exact Session.exists_outcome?_eq_error haccess hrestricted hunset hcontrol

/-- Where the flag for methods and constructors is withheld, the call of one that is not public is
denied. -/
theorem Withholds.outcome?_eq_accessDenied {m : Member}
    (hinvoke : Withholds (actions ++ [action]) m.declaring .invoke)
    (huse : (run actions).use? action = some (m, .invoke))
    (hprivate : m.modifiers.isPublic = false) :
    (run actions).outcome? action =
      some (.error (.accessDenied m.qualifiedName), (run actions).state) := by
  have hunset : (run actions).state.isAccessible m.id = false := by
    refine isAccessible_eq_false fun used hused => ?_
    obtain rfl : used = .invoke := hused.2 (((wellKinded_run actions).invoke_iff huse).1 rfl)
    exact hinvoke.of_append
  have hcontrol := hinvoke.canControl_eq_false huse
  exact Session.outcome?_eq_accessDenied huse hprivate hunset hcontrol

/-- Along every run an override that is set stays set, and an action that sets one uses the member
at a time when the permissions of its class contain the flag for this use: invoking for methods and
constructors, and reading or writing for fields.

An accessor of a field fails and leaves everything as it was if the field is not public, or is a
final field of objects and would be written, and the class has withheld both flags for fields.  The
call of a method or constructor that is not public is denied if the class has withheld the flag for
these. -/
theorem overrides_granted (actions : List Action) (action : Action) :
    let s := run actions
    let s' := run (actions ++ [action])
    (∀ id, s.state.isAccessible id = true → s'.state.isAccessible id = true) ∧
    (∀ id, s.state.isAccessible id = false → s'.state.isAccessible id = true →
      ∃ m kind, s.use? action = some (m, kind) ∧ m.id = id ∧
        (kind = .invoke ↔ id.kind ≠ .field) ∧
          (s.state.permissions.resolve id.owner).contains kind.privateFlag = true) ∧
    (∀ f kind, s.fieldAccess? action = some (f, kind) →
      (f.modifiers.isPublic = false ∨
        kind = .write ∧ f.modifiers.isFinal = true ∧ f.modifiers.isStatic = false) →
      Withholds (actions ++ [action]) f.declaring .read →
      Withholds (actions ++ [action]) f.declaring .write →
        ∃ e, s.outcome? action = some (.error e, s.state)) ∧
    (∀ m, s.use? action = some (m, .invoke) → m.modifiers.isPublic = false →
      Withholds (actions ++ [action]) m.declaring .invoke →
        s.outcome? action = some (.error (.accessDenied m.qualifiedName), s.state)) := by
  intro s s'
  have hs : s.WellKinded := wellKinded_run actions
  have hstep : s' = s.step action := run_append actions action
  rw [hstep]
  refine ⟨fun id hset => isAccessible_step hset action,
    fun id hunset hset => hs.exists_grant_of_isAccessible_step hunset hset,
    fun f kind haccess hrestricted hread hwrite => ?_, fun m huse hprivate hinvoke => ?_⟩
  · exact hread.exists_outcome?_eq_error hwrite haccess hrestricted
  · exact hinvoke.outcome?_eq_accessDenied huse hprivate

/-- A class of secrets that only the class itself can make. -/
def guardedDraft : ClassDraft :=
  secretDraft.withConstructor ⟨[], .privateFlag, none⟩

/-- A run in which the metadata of guarded secrets is built while nothing is allowed. -/
def guardedRun : List Action :=
  [.registry (.reserve "Secret" .ordinary), .registry (.register guardedDraft),
    .setGlobal .nothing, .build ⟨7⟩]

/-- Reads the field of a secret; which secret it is does not matter for its override. -/
def readToken : Action := .invoke 0 .get "token" .null []

/-- Writes the field of a secret. -/
def writeToken : Action := .invoke 0 .set "token" .null [.str "changed"]

/-- Uses of the two members of a secret, each with the flag that it needs and the member. -/
def guardedUses : List (Action × Permission × MemberId) :=
  [(readToken, .readPrivate, token.id), (writeToken, .writePrivate, token.id),
    (.construct 0, .invokePrivate, ⟨⟨7⟩, .constructor, 0⟩)]

/-- With the flag for it alone, each of the uses sets the override of its member for good.  Without
the flags for fields the field can neither be read nor written, and without the one for constructors
no secret can be made, whatever else is allowed. -/
theorem guardedRun_overrides_granted :
    let under (p : Permission) := guardedRun ++ [.setGlobal p]
    (∀ action flag id, (action, flag, id) ∈ guardedUses →
      (run (under flag ++ [action] ++ [.setGlobal .nothing])).state.isAccessible id = true ∧
      ∃ m kind, (run (under flag)).use? action = some (m, kind) ∧ m.id = id ∧
        (kind = .invoke ↔ id.kind ≠ .field) ∧
          ((run (under flag)).state.permissions.resolve id.owner).contains kind.privateFlag =
            true) ∧
    (∀ p ∈ [Permission.nothing, .invokeAll], ∀ action ∈ [readToken, writeToken],
      ∃ e, (run (under p)).outcome? action = some (.error e, (run (under p)).state)) ∧
    ∀ p ∈ [Permission.nothing, .union .readAll .writeAll],
      (run (under p)).outcome? (.construct 0) =
        some (.error (.accessDenied "Secret.<init>"), (run (under p)).state) := by
  intro under
  have hset : (guardedUses.all fun use =>
      !(run (under use.2.1)).state.isAccessible use.2.2 &&
        (run (under use.2.1 ++ [use.1])).state.isAccessible use.2.2) = true := by decide +kernel
  have hread : ∀ p, (run (under p)).fieldAccess? readToken = some (token, .read) := by
    intro p
    cbv
  have hwrite : ∀ p, (run (under p)).fieldAccess? writeToken = some (token, .write) := by
    intro p
    cbv
  have hmake : ∀ p, ∃ m : Member, (run (under p)).use? (.construct 0) = some (m, .invoke) ∧
      m.modifiers.isPublic = false ∧ m.declaring = ⟨7⟩ ∧ m.qualifiedName = "Secret.<init>" :=
    fun p => ⟨⟨⟨⟨7⟩, .constructor, 0⟩, "<init>", "Secret", .privateFlag⟩, by cbv, by decide, rfl,
      by decide⟩
  have hresolve : ∀ p, (run (under p)).state.permissions.resolve ⟨7⟩ = p := by
    intro p
    cbv
  -- in these runs no member is used before the last action
  have hwithheld : ∀ p action kind, p.contains kind.privateFlag = false →
      Withholds (under p ++ [action]) ⟨7⟩ kind := by
    intro p action kind hmissing
    have hbefore : Withholds (under p) ⟨7⟩ kind :=
      .of_use?_eq_none (by simp [under, guardedRun, use?])
    refine hbefore.append_singleton ?_ action
    rw [hresolve, hmissing]
  refine ⟨fun action flag id hmem => ?sets, fun p hp action haction => ?fields, fun p hp => ?make⟩
  case sets =>
    obtain ⟨hunset, hset⟩ := Bool.and_eq_true_iff.1 (List.all_eq_true.1 hset _ hmem)
    have hunset : (run (under flag)).state.isAccessible id = false := by simpa using hunset
    exact ⟨(overrides_granted _ _).1 _ hset, (overrides_granted _ _).2.1 _ hunset hset⟩
  case fields =>
    have hmissing : ∀ p ∈ [Permission.nothing, .invokeAll],
        p.contains .readPrivate = false ∧ p.contains .writePrivate = false := by decide
    obtain ⟨hreading, hwriting⟩ := hmissing p hp
    rcases List.mem_cons.1 haction with rfl | haction
    · exact (overrides_granted _ _).2.2.1 _ _ (hread p) (.inl (by decide))
        (hwithheld p _ .read hreading) (hwithheld p _ .write hwriting)
    · rw [List.mem_singleton.1 haction]
      exact (overrides_granted _ _).2.2.1 _ _ (hwrite p) (.inl (by decide))
        (hwithheld p _ .read hreading) (hwithheld p _ .write hwriting)
  case make =>
    have hmissing : ∀ p ∈ [Permission.nothing, .union .readAll .writeAll],
        p.contains .invokePrivate = false := by decide
    obtain ⟨m, huse, hprivate, hdeclaring, hname⟩ := hmake p
    rw [← hname]
    exact (overrides_granted _ _).2.2.2 m huse hprivate
      (hdeclaring ▸ hwithheld p _ .invoke (hmissing p hp))

end Introspection.Session
