import Introspection.Proofs.Accessor.Frame
import Introspection.Proofs.Metadata.Origin
import Introspection.Proofs.Registry.Definition

/-!
# Denial of access

`Member.OverridePolicy` says what an accessor answers in terms of the plain use of its member.  The
plain use is refused exactly if it needs the override and this is not set: for lack of the public
modifier, or because a final field of objects is written.  If the flag is missing as well, access is
denied, and everything is as before.  If the flag is there, the override of this one member is set,
and the use is carried out, so one further attempt is always enough.  A use that is not refused is
reported as it is, and sets no override.

The checks of the four kinds of uses come in different orders, but each use is carried out where the
member may be used (`Method.carriedOut_call` and its like), so all of them answer alike
(`Member.IsUse.overridePolicy`).  The main statement is `denial_exact`.
-/

namespace Introspection

/-- The plain use of a member through an accessor, unless the accessor is ambiguous or does not
accept this number of arguments. -/
def Accessor.use? : Accessor → Value → List Value → Option (State → Except CallError Value × State)
  | method m, target, args => some (m.call · target args)
  | readField f, target, [] => some (f.reading target)
  | writeField f, target, [value] => some (f.writing target value)
  | _, _, _ => none

/-- How the outcome of using a member with one retry follows from its plain use, which needs the
override if it is restricted. -/
structure Member.OverridePolicy {α : Type} (m : Member) (kind : AccessKind) (restricted : Prop)
    (use : State → Except CallError α × State) (s : State)
    (outcome : Except ReflectionError α × State) : Prop where
  /-- The plain use is refused exactly if it is restricted and the override is not set. -/
  refused_iff : (use s).1 = .error .illegalAccess ↔ restricted ∧ s.isAccessible m.id = false
  /-- Access is denied exactly if the plain use is refused and the flag is missing. -/
  denied_iff : (∃ name, outcome.1 = .error (.accessDenied name)) ↔
    (use s).1 = .error .illegalAccess ∧ s.permissions.canControl m.declaring kind = false
  /-- A denial leaves no trace. -/
  eq_of_denied : (∃ name, outcome.1 = .error (.accessDenied name)) →
    outcome = (.error (.accessDenied m.qualifiedName), s)
  /-- Where the plain use is refused and the flag is there, the override of the member is set, and
  no other; then the member is used, and this is not refused. -/
  forced : (use s).1 = .error .illegalAccess → s.permissions.canControl m.declaring kind = true →
    outcome = m.reported (use (s.setAccessible m.id true)) ∧
      (use (s.setAccessible m.id true)).1 ≠ .error .illegalAccess ∧
      (∀ id, outcome.2.isAccessible id = if id = m.id then true else s.isAccessible id) ∧
      outcome.2.permissions = s.permissions
  /-- A plain use that is not refused is reported, and changes no override. -/
  direct : (use s).1 ≠ .error .illegalAccess →
    outcome = m.reported (use s) ∧ outcome.2.overrides = s.overrides ∧
      outcome.2.permissions = s.permissions
  /-- What fails for other reasons than denial is reported as a failure of the member. -/
  failure : ∀ e, outcome.1 = .error e → (∀ name, e ≠ .accessDenied name) →
    ∃ cause, e = .invocationFailure m.qualifiedName cause

/-! ### Refused uses -/

namespace Member.IsUse

variable {α : Type} {m : Member} {use : State → Except CallError α × State} {s : State}
  {kind : AccessKind} {restricted : Prop}

/-- A refused use changes nothing. -/
theorem eq_of_refused (huse : m.IsUse use) (hrefused : (use s).1 = .error .illegalAccess) :
    use s = (.error .illegalAccess, s) := by
  rcases huse s with heq | ⟨-, outcome, s', hcarried, hne, -⟩
  · exact heq
  · rw [hcarried] at hrefused
    exact absurd hrefused hne

/-- What is not refused is carried out. -/
theorem carriedOut (huse : m.IsUse use) (hgranted : (use s).1 ≠ .error .illegalAccess) :
    s.CarriedOut (use s) := by
  rcases huse s with heq | ⟨-, outcome, s', hcarried, -, hsame⟩
  · rw [heq] at hgranted
    exact absurd rfl hgranted
  · rw [hcarried] at hgranted ⊢
    exact ⟨hgranted, hsame⟩

/-- A use that is carried out wherever the member may be used is refused where the member is not
public and its override is not set. -/
theorem refused_iff_of_carriedOut (huse : m.IsUse use)
    (hcarried : ∀ {s : State}, s.permits m = true → s.CarriedOut (use s)) (s : State) :
    (use s).1 = .error .illegalAccess ↔
      m.modifiers.isPublic = false ∧ s.isAccessible m.id = false := by
  rw [← Bool.or_eq_false_iff, ← State.permits]
  constructor
  · intro hrefused
    rw [← Bool.not_eq_true]
    exact fun hpermits => (hcarried hpermits).1 hrefused
  · exact fun hpermits => congrArg Prod.fst (huse.eq_of_permits_eq_false hpermits)

end Member.IsUse

theorem Method.refused_call_iff (m : Method) (target : Value) (args : List Value) (s : State) :
    (m.call s target args).1 = .error .illegalAccess ↔
      m.modifiers.isPublic = false ∧ s.isAccessible m.id = false :=
  (m.isUse_call target args).refused_iff_of_carriedOut
    (fun hpermits => carriedOut_call hpermits target args) s

theorem Constructor.refused_call_iff (c : Constructor) (args : List Value) (s : State) :
    (c.call s args).1 = .error .illegalAccess ↔
      c.modifiers.isPublic = false ∧ s.isAccessible c.id = false :=
  (c.isUse_call args).refused_iff_of_carriedOut
    (fun hpermits => carriedOut_call hpermits args) s

theorem Field.refused_reading_iff (f : Field) (target : Value) (s : State) :
    (f.reading target s).1 = .error .illegalAccess ↔
      f.modifiers.isPublic = false ∧ s.isAccessible f.id = false :=
  (f.isUse_reading target).refused_iff_of_carriedOut
    (fun hpermits => carriedOut_reading hpermits target) s

/-- Writing a field is refused without its override if the field is not public, and also if it is
final and not static. -/
theorem Field.refused_writing_iff (f : Field) (target value : Value) (s : State) :
    (f.writing target value s).1 = .error .illegalAccess ↔
      (f.modifiers.isPublic = false ∨
        f.modifiers.isFinal = true ∧ f.modifiers.isStatic = false) ∧
        s.isAccessible f.id = false := by
  constructor
  · intro hrefused
    by_contra hnot
    have hpermits : s.permits f.toMember = true := by
      rw [State.permits]
      cases hpublic : f.modifiers.isPublic with
      | true => rfl
      | false => simpa [hpublic] using hnot
    have hfinality : f.finality s ≠ some .illegalAccess := by
      unfold finality
      cases hfinal : f.modifiers.isFinal <;> cases hstatic : f.modifiers.isStatic <;>
        simp_all
    exact (carriedOut_writing hpermits hfinality target value).1 hrefused
  · rintro ⟨hprivate | ⟨hfinal, hobjects⟩, hunset⟩
    · have hpermits := State.permits_eq_false (m := f.toMember) hprivate hunset
      exact congrArg Prod.fst ((f.isUse_writing target value).eq_of_permits_eq_false hpermits)
    · exact congrArg Prod.fst (f.writing_eq_of_isFinal target value hfinal hobjects hunset)

/-! ### One retry -/

/-- An error that is no lack of access is not reported as a denial. -/
theorem Member.fst_reported_ne_accessDenied {α : Type} (m : Member)
    {outcome : Except CallError α × State} (hgranted : outcome.1 ≠ .error .illegalAccess)
    (name : String) : (m.reported outcome).1 ≠ .error (.accessDenied name) := by
  obtain ⟨fault | value, s⟩ := outcome
  · cases fault with
    | illegalAccess => exact absurd rfl hgranted
    | fault cause => simp [reported, CallError.report]
  · simp [reported]

/-- Errors are reported as denials or as failures of the member. -/
theorem Member.exists_of_fst_reported_eq_error {α : Type} (m : Member)
    {outcome : Except CallError α × State} {e : ReflectionError}
    (herror : (m.reported outcome).1 = .error e) :
    e = .accessDenied m.qualifiedName ∨ ∃ cause, e = .invocationFailure m.qualifiedName cause := by
  obtain ⟨fault | value, s⟩ := outcome
  · cases fault with
    | illegalAccess => exact .inl (Except.error.inj herror).symm
    | fault cause => exact .inr ⟨cause, (Except.error.inj herror).symm⟩
  · cases herror

/-- Uses that are refused exactly if they are restricted and the override is not set follow the
policy. -/
theorem Member.IsUse.overridePolicy {α : Type} {m : Member} {restricted : Prop}
    {use : State → Except CallError α × State} (huse : m.IsUse use)
    (hrefused : ∀ s, (use s).1 = .error .illegalAccess ↔ restricted ∧ s.isAccessible m.id = false)
    (s : State) (kind : AccessKind) :
    m.OverridePolicy kind restricted use s (s.withOverride m kind use) := by
  -- with the override set, no use is refused
  have hset : ∀ id, (s.setAccessible m.id true).isAccessible id =
      if id = m.id then true else s.isAccessible id := fun id =>
    State.isAccessible_setAccessible s m.id id true
  have hagain : (use (s.setAccessible m.id true)).1 ≠ .error .illegalAccess := by
    rw [Ne, hrefused, hset, if_pos rfl]
    simp
  have hdenied : (∃ name, (s.withOverride m kind use).1 = .error (.accessDenied name)) ↔
      (use s).1 = .error .illegalAccess ∧ s.permissions.canControl m.declaring kind = false := by
    constructor
    · rintro ⟨name, hname⟩
      by_cases hfirst : (use s).1 = .error .illegalAccess
      · refine ⟨hfirst, Bool.not_eq_true _ ▸ fun hcontrol => ?_⟩
        rw [State.withOverride_eq_of_canControl (huse.eq_of_refused hfirst) hcontrol] at hname
        exact m.fst_reported_ne_accessDenied hagain name hname
      · rw [State.withOverride_eq_of_granted hfirst] at hname
        exact absurd hname (m.fst_reported_ne_accessDenied hfirst name)
    · rintro ⟨hfirst, hcontrol⟩
      exact ⟨_, congrArg Prod.fst
        (State.withOverride_eq_accessDenied (huse.eq_of_refused hfirst) hcontrol)⟩
  refine ⟨hrefused s, hdenied, fun hname => ?eq_of_denied, fun hfirst hcontrol => ?forced,
    fun hgranted => ?direct, fun e he hnot => ?failure⟩
  case eq_of_denied =>
    obtain ⟨hfirst, hcontrol⟩ := hdenied.1 hname
    exact State.withOverride_eq_accessDenied (huse.eq_of_refused hfirst) hcontrol
  case forced =>
    obtain ⟨-, hoverrides, hpermissions⟩ := huse.carriedOut hagain
    rw [State.withOverride_eq_of_canControl (huse.eq_of_refused hfirst) hcontrol]
    refine ⟨rfl, hagain, fun id => ?_, ?_⟩
    · rw [← hset id, State.isAccessible, m.snd_reported, hoverrides, State.isAccessible]
    · rw [m.snd_reported, hpermissions]
      rfl
  case direct =>
    obtain ⟨-, hoverrides, hpermissions⟩ := huse.carriedOut hgranted
    rw [State.withOverride_eq_of_granted hgranted, m.snd_reported]
    exact ⟨rfl, hoverrides, hpermissions⟩
  case failure =>
    obtain ⟨s₀, -, heq⟩ := huse.exists_withOverride_eq s kind
    rw [heq] at he
    exact (m.exists_of_fst_reported_eq_error he).resolve_left (hnot m.qualifiedName)

/-- Where the flag is there, the member is used, as the state is or with the override set. -/
theorem Member.OverridePolicy.exists_reported_eq {α : Type} {m : Member} {kind : AccessKind}
    {restricted : Prop} {use : State → Except CallError α × State} {s : State}
    {outcome : Except ReflectionError α × State}
    (hpolicy : m.OverridePolicy kind restricted use s outcome)
    (hcontrol : s.permissions.canControl m.declaring kind = true) :
    ∃ s₀, (s₀ = s ∨ s₀ = s.setAccessible m.id true) ∧ (use s₀).1 ≠ .error .illegalAccess ∧
      outcome = m.reported (use s₀) := by
  by_cases hfirst : (use s).1 = .error .illegalAccess
  · obtain ⟨heq, hgranted, -⟩ := hpolicy.forced hfirst hcontrol
    exact ⟨_, .inr rfl, hgranted, heq⟩
  · exact ⟨s, .inl rfl, hfirst, (hpolicy.direct hfirst).1⟩

/-- Every accessor that uses its member follows the policy. -/
theorem Accessor.overridePolicy {a : Accessor} {target : Value} {args : List Value}
    {use : State → Except CallError Value × State} (huse : a.use? target args = some use)
    {kind : AccessKind} (hkind : a.access? = some kind) (s : State) :
    a.member.OverridePolicy kind a.IsRestricted use s (a.invoke s target args) := by
  cases a with
  | method m =>
    cases huse
    cases hkind
    exact (m.isUse_call target args).overridePolicy (m.refused_call_iff target args) s .invoke
  | readField f =>
    cases args with
    | nil =>
      cases huse
      cases hkind
      exact (f.isUse_reading target).overridePolicy (f.refused_reading_iff target) s .read
    | cons _ _ => cases huse
  | writeField f =>
    match args with
    | [value] =>
      cases huse
      cases hkind
      exact (f.isUse_writing target value).overridePolicy (f.refused_writing_iff target value) s
        .write
    | [] => cases huse
    | _ :: _ :: _ => cases huse
  | ambiguous m cause => cases huse

/-- Making an object with a constructor without parameters follows the policy. -/
theorem Constructor.overridePolicy (c : Constructor) (s : State) :
    c.toMember.OverridePolicy .invoke (c.modifiers.isPublic = false) (c.call · []) s
      (c.construct s) :=
  (c.isUse_call []).overridePolicy (c.refused_call_iff []) s .invoke

/-- The constructor in the metadata of a class is one of the class. -/
theorem Metadata.declaring_defaultConstructor {r : Registry} (h : r.Reachable) {id : ClassId}
    {m : Metadata} (hm : ofClass r id = .ok m) {k : Constructor}
    (hk : m.defaultConstructor? = some k) : k.declaring = id := by
  obtain ⟨c, methods, fields, hc, -, -, -, hconstructor⟩ := exists_origin hm
  rw [hconstructor] at hk
  exact h.declaring_of_mem_constructors hc (List.mem_of_find?_eq_some hk)

/-- Every accessor that is not ambiguous, given a number of arguments that it accepts, and the
making of an object with the metadata of a class follow the policy: access is denied exactly if the
plain use is refused and the permissions of the declaring class lack the flag, and nothing has
changed then. -/
theorem denial_exact (s : State) :
    (∀ (a : Accessor) target args use kind, a.use? target args = some use →
      a.access? = some kind →
        a.member.OverridePolicy kind a.IsRestricted use s (a.invoke s target args)) ∧
    ∀ (r : Registry) id m c, r.Reachable → Metadata.ofClass r id = .ok m →
      m.defaultConstructor? = some c → c.declaring = id ∧
        c.toMember.OverridePolicy .invoke (c.modifiers.isPublic = false) (c.call · []) s
          (m.newInstance s) := by
  constructor
  · intro a target args use kind huse hkind
    exact a.overridePolicy huse hkind s
  · intro r id m c hr hm hc
    refine ⟨Metadata.declaring_defaultConstructor hr hm hc, ?_⟩
    have hnew : m.newInstance s = c.construct s := by
      simp [Metadata.newInstance, Metadata.defaultConstructor, hc]
    rw [hnew]
    exact c.overridePolicy s

/-- In the beginning everything is allowed. -/
theorem State.canControl_initial (id : ClassId) (kind : AccessKind) :
    State.initial.permissions.canControl id kind = true := by
  have heverything : State.initial.permissions.resolve id = .everything := rfl
  rw [PermissionStore.canControl, heverything, Permission.contains_privateFlag_iff]
  cases kind <;> decide

/-- The field through which a property is written, if it is written through one. -/
def Metadata.writtenField? (m : Metadata) (name : String) : Option Field :=
  (m.accessor .set name).toOption.bind fun
    | .writeField f => some f
    | _ => none

theorem Metadata.accessor_of_writtenField? {m : Metadata} {name : String} {f : Field}
    (hf : m.writtenField? name = some f) : m.accessor .set name = .ok (.writeField f) := by
  obtain ⟨a, ha, hf⟩ := Option.bind_eq_some_iff.1 hf
  rw [Except.toOption_eq_some_iff.1 ha]
  cases a <;> cases hf
  rfl

/-- The draft of a class with a public final field, whose objects only the class itself can make. -/
def vaultDraft : ClassDraft :=
  ((ClassDraft.ofKind ⟨7⟩ "Vault" .ordinary).withField
    { FieldDraft.named "code" (.ofClass ⟨3⟩) with
      modifiers := Modifiers.publicFlag.union .finalFlag }).withConstructor
    { ConstructorDraft.default with modifiers := .privateFlag }

/-- Without the flag for invoking private constructors no vault can be made, and without the one for
writing private fields no code can be written, whatever else is allowed; trying leaves no trace.
With the flag alone, trying sets the override. -/
theorem vaultDraft_denied :
    let r := (Registry.definitionCalls [vaultDraft]).foldl Registry.after .initial
    let under (p : Permission) : State :=
      { State.initial with permissions := .setGlobal .initial p }
    ∃ m k f, Metadata.ofClass r ⟨7⟩ = .ok m ∧ m.defaultConstructor? = some k ∧
      m.accessor .set "code" = .ok (.writeField f) ∧
      (∀ p ∈ [Permission.nothing, .difference .everything .invokePrivate],
        m.newInstance (under p) = (.error (.accessDenied k.qualifiedName), under p)) ∧
      (∀ p ∈ [Permission.nothing, .difference .everything .writePrivate],
        (Accessor.writeField f).invoke (under p) .null [.int 5] =
          (.error (.accessDenied f.qualifiedName), under p)) ∧
      (∀ p ∈ [Permission.everything, .invokePrivate],
        (m.newInstance (under p)).2.isAccessible k.id = true) ∧
      ∀ p ∈ [Permission.everything, .writePrivate],
        ((Accessor.writeField f).invoke (under p) .null [.int 5]).2.isAccessible f.id = true := by
  intro r under
  have hr : r.Reachable := Registry.reachable_definitionCalls (by decide)
  have hshown : ((Metadata.ofClass r ⟨7⟩).toOption.any fun m =>
      (m.defaultConstructor?.any fun k => !k.modifiers.isPublic) &&
        (m.writtenField? "code").any fun f =>
          decide (f.modifiers.isFinal = true ∧ f.modifiers.isStatic = false)) = true := by
    decide +kernel
  obtain ⟨m, hm, hshown⟩ := (Option.any_eq_true _ _).1 hshown
  obtain ⟨hconstructor, hfield⟩ := Bool.and_eq_true_iff.1 hshown
  obtain ⟨k, hk, hprivate⟩ := (Option.any_eq_true _ _).1 hconstructor
  obtain ⟨f, hf, hfinal⟩ := (Option.any_eq_true _ _).1 hfield
  have hm := Except.toOption_eq_some_iff.1 hm
  have hprivate : k.modifiers.isPublic = false := by simpa using hprivate
  -- in none of the states anything has been made accessible yet
  have hmake := fun p => ((denial_exact (under p)).2 r ⟨7⟩ m k hr hm hk).2
  have hwrite := fun p => (denial_exact (under p)).1 (.writeField f) .null [.int 5] _ .write rfl rfl
  have hnotMade := fun p => (hmake p).refused_iff.2 ⟨hprivate, rfl⟩
  have hnotWritten := fun p => (hwrite p).refused_iff.2 ⟨.inr (of_decide_eq_true hfinal), rfl⟩
  refine ⟨m, k, f, hm, hk, Metadata.accessor_of_writtenField? hf, fun p hp => ?_, fun p hp => ?_,
    fun p hp => ?_, fun p hp => ?_⟩
  · have hmissing : ∀ p ∈ [Permission.nothing, .difference .everything .invokePrivate],
        p.contains .invokePrivate = false := by decide
    exact (hmake p).eq_of_denied ((hmake p).denied_iff.2 ⟨hnotMade p, hmissing p hp⟩)
  · have hmissing : ∀ p ∈ [Permission.nothing, .difference .everything .writePrivate],
        p.contains .writePrivate = false := by decide
    exact (hwrite p).eq_of_denied ((hwrite p).denied_iff.2 ⟨hnotWritten p, hmissing p hp⟩)
  · have hthere : ∀ p ∈ [Permission.everything, .invokePrivate],
        p.contains .invokePrivate = true := by decide
    obtain ⟨-, -, hset, -⟩ := (hmake p).forced (hnotMade p) (hthere p hp)
    exact (hset k.id).trans (if_pos rfl)
  · have hthere : ∀ p ∈ [Permission.everything, .writePrivate],
        p.contains .writePrivate = true := by decide
    obtain ⟨-, -, hset, -⟩ := (hwrite p).forced (hnotWritten p) (hthere p hp)
    exact (hset f.id).trans (if_pos rfl)

end Introspection
