import Introspection.Accessor.Invoke

/-!
# Overrides and permissions

What using an accessor does to the overrides.  A use of a member is refused, and then changes
nothing, or it is carried out, and then the member may be used and neither overrides nor permissions
change (`Member.IsUse`).  All uses behind accessors are of this form, so overrides are set by
`State.withOverride` alone, and only where the permissions of the declaring class contain the flag
for the use at hand (`IsUse.mem_overrides_withOverride`).

What is said of accessors rests on one case lemma, `Accessor.invoke_cases`: an accessor fails at
once and leaves everything as it was, or it uses its member as `State.withOverride` says.  This
gives `Accessor.mem_overrides_invoke` and, in the other direction, `Accessor.invoke_eq_of_refused`:
without the override and without the flag an accessor fails and leaves everything as it was.

A member that is not public cannot be used without its override, and a final field of objects cannot
be written without it (`Accessor.IsRestricted`).  Which flag opens such a member is spelled out by
`Permission.contains_privateFlag_iff`.
-/

namespace Introspection

/-- Every use is refused, which changes nothing, or carried out on a member that may be used, which
changes neither overrides nor permissions. -/
def Member.IsUse {α : Type} (m : Member) (use : State → Except CallError α × State) : Prop :=
  ∀ s, use s = (.error .illegalAccess, s) ∨ s.permits m = true ∧ ∃ outcome s',
    use s = (outcome, s') ∧ outcome ≠ .error .illegalAccess ∧ s'.overrides = s.overrides ∧
      s'.permissions = s.permissions

/-- A use has been carried out: if it failed, then not for lack of access, and neither overrides nor
permissions have changed. -/
def State.CarriedOut {α : Type} (s : State) (result : Except CallError α × State) : Prop :=
  result.1 ≠ .error .illegalAccess ∧ result.2.overrides = s.overrides ∧
    result.2.permissions = s.permissions

/-- Restricted fields are opened for reading by the flag for reading private fields and for writing
by the one for writing them, and restricted methods and constructors by the one for invoking private
methods; no flag stands in for another one. -/
theorem Permission.contains_privateFlag_iff {p : Permission} {kind : AccessKind} :
    p.contains kind.privateFlag = true ↔
      kind = .read ∧ p.contains .readPrivate = true ∨
        kind = .write ∧ p.contains .writePrivate = true ∨
          kind = .invoke ∧ p.contains .invokePrivate = true := by
  cases kind <;> simp [AccessKind.privateFlag]

/-! ### The uses behind accessors -/

/-- What changes the objects alone, and does not fail for lack of access, has been carried out. -/
theorem State.carriedOut_withHeap {α : Type} (s : State) {outcome : Except CallError α}
    (houtcome : outcome ≠ .error .illegalAccess) (heap : Heap) :
    s.CarriedOut (outcome, { s with heap := heap }) :=
  ⟨houtcome, rfl, rfl⟩

/-- A body changes the objects alone, and if it fails it is for a reason of its own. -/
theorem State.carriedOut_runBody (s : State) (body : MethodBody) (receiver : Value)
    (args : List Value) : s.CarriedOut (s.runBody body receiver args) := by
  unfold runBody
  split
  · exact s.carriedOut_withHeap (by simp) _
  · exact s.carriedOut_withHeap (by simp) _

/-- A method that may be used fails at once, and leaves everything as it was, or it runs a body. -/
theorem Method.call_cases {m : Method} {s : State} (hpermits : s.permits m.toMember = true)
    (target : Value) (args : List Value) :
    (∃ cause, m.call s target args = (.error (.fault cause), s)) ∨
      ∃ body receiver, m.call s target args = s.runBody body receiver args := by
  simp only [call, hpermits, Bool.not_true, Bool.false_eq_true, if_false]
  split
  · exact .inl ⟨_, rfl⟩
  · split
    · split
      · exact .inr ⟨_, _, rfl⟩
      · exact .inl ⟨_, rfl⟩
    · split
      · split
        · exact .inr ⟨_, _, rfl⟩
        · exact .inl ⟨_, rfl⟩
      · exact .inl ⟨_, rfl⟩

/-- A method that may be used is called. -/
theorem Method.carriedOut_call {m : Method} {s : State} (hpermits : s.permits m.toMember = true)
    (target : Value) (args : List Value) : s.CarriedOut (m.call s target args) := by
  obtain ⟨cause, hcall⟩ | ⟨body, receiver, hcall⟩ := call_cases hpermits target args
  · rw [hcall]
    exact s.carriedOut_withHeap (by simp) s.heap
  · rw [hcall]
    exact s.carriedOut_runBody body receiver args

/-- A constructor that may be used is called. -/
theorem Constructor.carriedOut_call {c : Constructor} {s : State}
    (hpermits : s.permits c.toMember = true) (args : List Value) :
    s.CarriedOut (c.call s args) := by
  simp only [call, hpermits, Bool.not_true, Bool.false_eq_true, if_false]
  split
  · exact s.carriedOut_withHeap (by simp) _
  · split
    · exact s.carriedOut_withHeap (by simp) _
    · split
      · exact s.carriedOut_withHeap (by simp) _
      · split
        · exact s.carriedOut_withHeap (by simp) _
        · exact s.carriedOut_withHeap (by simp) _

/-- A field that may be used is read. -/
theorem Field.carriedOut_reading {f : Field} {s : State} (hpermits : s.permits f.toMember = true)
    (target : Value) : s.CarriedOut (f.reading target s) := by
  refine s.carriedOut_withHeap ?_ s.heap
  simp only [read, hpermits, Bool.not_true, Bool.false_eq_true, if_false]
  split
  · simp
  · split
    · split <;> simp
    · simp

/-- A field is written if it may be used, its being final is no obstacle, and it is static or the
target is an object that has it; then this is all that changes. -/
theorem Field.write_eq_ok_iff {f : Field} {s s' : State} {target value : Value} :
    f.write s target value = .ok s' ↔
      s.permits f.toMember = true ∧ f.finality s = none ∧
        (f.modifiers.isStatic = true ∧ s' = { s with statics := s.statics.insert f.id value } ∨
          f.modifiers.isStatic = false ∧ ∃ ref heap, target = .object ref ∧
            s.heap.write? ref (.key f.key) value = some heap ∧ s' = { s with heap := heap }) := by
  unfold write
  cases s.permits f.toMember with
  | false => simp
  | true =>
    cases f.finality s with
    | some refusal => simp
    | none =>
      cases f.modifiers.isStatic with
      | true => simp [eq_comm]
      | false =>
        cases target with
        | object ref =>
          cases hw : s.heap.write? ref (.key f.key) value with
          | some heap => simp [hw, eq_comm]
          | none => simp [hw]
        | _ => simp

/-- Writing a field succeeds, or it fails and leaves everything as it was. -/
theorem Field.writing_cases (f : Field) (target value : Value) (s : State) :
    (∃ s', f.write s target value = .ok s' ∧ f.writing target value s = (.ok .null, s')) ∨
      ∃ e, f.writing target value s = (.error e, s) := by
  unfold writing
  cases f.write s target value with
  | ok s' => exact .inl ⟨s', rfl, rfl⟩
  | error e => exact .inr ⟨e, rfl⟩

/-- A field that may be used is written, unless it is final and its override would be needed. -/
theorem Field.carriedOut_writing {f : Field} {s : State} (hpermits : s.permits f.toMember = true)
    (hfinality : f.finality s ≠ some .illegalAccess) (target value : Value) :
    s.CarriedOut (f.writing target value s) := by
  simp only [writing, write, hpermits, Bool.not_true, Bool.false_eq_true, if_false]
  cases hrefusal : f.finality s with
  | some refusal => exact s.carriedOut_withHeap (by simpa [hrefusal] using hfinality) s.heap
  | none =>
    cases hstatic : f.modifiers.isStatic with
    | true => exact ⟨by simp, rfl, rfl⟩
    | false =>
      cases target with
      | object ref =>
        dsimp only [Bool.false_eq_true, if_false]
        cases s.heap.write? ref (.key f.key) value with
        | some heap => exact s.carriedOut_withHeap (by simp) heap
        | none => exact s.carriedOut_withHeap (by simp) s.heap
      | _ => exact s.carriedOut_withHeap (by simp) s.heap

theorem Method.isUse_call (m : Method) (target : Value) (args : List Value) :
    m.toMember.IsUse (m.call · target args) := by
  intro s
  cases hpermits : s.permits m.toMember with
  | false => exact .inl (by simp [call, hpermits])
  | true => exact .inr ⟨rfl, _, _, rfl, carriedOut_call hpermits target args⟩

theorem Constructor.isUse_call (c : Constructor) (args : List Value) :
    c.toMember.IsUse (c.call · args) := by
  intro s
  cases hpermits : s.permits c.toMember with
  | false => exact .inl (by simp [call, hpermits])
  | true => exact .inr ⟨rfl, _, _, rfl, carriedOut_call hpermits args⟩

theorem Field.isUse_reading (f : Field) (target : Value) :
    f.toMember.IsUse (f.reading target) := by
  intro s
  cases hpermits : s.permits f.toMember with
  | false => exact .inl (by simp [reading, read, hpermits])
  | true => exact .inr ⟨rfl, _, _, rfl, carriedOut_reading hpermits target⟩

/-- Unlike the other members, a field may be refused although it is public: when it is final. -/
theorem Field.isUse_writing (f : Field) (target value : Value) :
    f.toMember.IsUse (f.writing target value) := by
  intro s
  cases hpermits : s.permits f.toMember with
  | false => exact .inl (by simp [writing, write, hpermits])
  | true =>
    by_cases hfinality : f.finality s = some .illegalAccess
    · exact .inl (by simp [writing, write, hpermits, hfinality])
    · exact .inr ⟨rfl, _, _, rfl, carriedOut_writing hpermits hfinality target value⟩

/-! ### Setting the override -/

/-- Setting an override changes no value. -/
theorem State.values_of_start {s s' : State} {m : Member}
    (hstart : s' = s ∨ s' = s.setAccessible m.id true) :
    s'.heap = s.heap ∧ s'.statics = s.statics := by
  rcases hstart with rfl | rfl <;> exact ⟨rfl, rfl⟩

/-- A use that is not refused is reported. -/
theorem State.withOverride_eq_of_granted {α : Type} {s : State} {m : Member} {kind : AccessKind}
    {use : State → Except CallError α × State} (hgranted : (use s).1 ≠ .error .illegalAccess) :
    s.withOverride m kind use = m.reported (use s) := by
  rcases houtcome : use s with ⟨outcome, s'⟩
  rw [houtcome] at hgranted
  unfold withOverride
  rw [houtcome]
  split
  · next hrefused =>
    cases hrefused
    exact absurd rfl hgranted
  · rfl

/-- Where a use is refused and the flag is there, the override is set and the member used once
more. -/
theorem State.withOverride_eq_of_canControl {α : Type} {s : State} {m : Member} {kind : AccessKind}
    {use : State → Except CallError α × State} (hrefused : use s = (.error .illegalAccess, s))
    (hcontrol : s.permissions.canControl m.declaring kind = true) :
    s.withOverride m kind use = m.reported (use (s.setAccessible m.id true)) := by
  simp [withOverride, hrefused, hcontrol]

/-- Where a use is refused and the flag is missing, access is denied and nothing changes. -/
theorem State.withOverride_eq_accessDenied {α : Type} {s : State} {m : Member} {kind : AccessKind}
    {use : State → Except CallError α × State} (hrefused : use s = (.error .illegalAccess, s))
    (hcontrol : s.permissions.canControl m.declaring kind = false) :
    s.withOverride m kind use = (.error (.accessDenied m.qualifiedName), s) := by
  simp [withOverride, hrefused, hcontrol]

/-- Reporting an error changes nothing. -/
theorem Member.snd_reported {α : Type} (m : Member) (outcome : Except CallError α × State) :
    (m.reported outcome).2 = outcome.2 := by
  obtain ⟨value | e, s⟩ := outcome <;> rfl

namespace Member.IsUse

variable {α : Type} {m : Member} {use : State → Except CallError α × State} {s : State}
  {kind : AccessKind}

/-- A member that may not be used is not used. -/
theorem eq_of_permits_eq_false (huse : m.IsUse use) (hpermits : s.permits m = false) :
    use s = (.error .illegalAccess, s) := by
  rcases huse s with hrefused | ⟨hpermits', -⟩
  · exact hrefused
  · rw [hpermits] at hpermits'
    cases hpermits'

/-- No use changes an override. -/
theorem overrides_eq (huse : m.IsUse use) (s : State) : (use s).2.overrides = s.overrides := by
  rcases huse s with hrefused | ⟨-, outcome, s', hcarried, -, hoverrides, -⟩
  · rw [hrefused]
  · rw [hcarried, hoverrides]

/-- What an accessor does with a use: it carries it out, carries it out with the override set, or
denies access and leaves everything as it was. -/
theorem withOverride_cases (huse : m.IsUse use) (s : State) (kind : AccessKind) :
    (∃ outcome s', use s = (outcome, s') ∧ outcome ≠ .error .illegalAccess ∧
      s.withOverride m kind use = m.reported (outcome, s')) ∨
    (use s = (.error .illegalAccess, s) ∧ s.permissions.canControl m.declaring kind = true ∧
      s.withOverride m kind use = m.reported (use (s.setAccessible m.id true))) ∨
    (use s = (.error .illegalAccess, s) ∧ s.permissions.canControl m.declaring kind = false ∧
      s.withOverride m kind use = (.error (.accessDenied m.qualifiedName), s)) := by
  rcases huse s with hrefused | ⟨-, outcome, s', hcarried, hne, -⟩
  · right
    cases hcontrol : s.permissions.canControl m.declaring kind with
    | true => exact .inl ⟨hrefused, rfl, State.withOverride_eq_of_canControl hrefused hcontrol⟩
    | false => exact .inr ⟨hrefused, rfl, State.withOverride_eq_accessDenied hrefused hcontrol⟩
  · refine .inl ⟨outcome, s', hcarried, hne, ?_⟩
    rw [State.withOverride_eq_of_granted (by rwa [hcarried]), hcarried]

/-- What an accessor reports is the outcome of the use, as the state was or with the override set;
for a denial this is the first, refused use. -/
theorem exists_withOverride_eq (huse : m.IsUse use) (s : State) (kind : AccessKind) :
    ∃ s₀, (s₀ = s ∨ s₀ = s.setAccessible m.id true) ∧
      s.withOverride m kind use = m.reported (use s₀) := by
  obtain ⟨outcome, s', hcarried, -, heq⟩ | ⟨-, -, heq⟩ | ⟨hrefused, -, heq⟩ :=
    huse.withOverride_cases s kind
  · exact ⟨s, .inl rfl, by rw [heq, hcarried]⟩
  · exact ⟨_, .inr rfl, heq⟩
  · exact ⟨s, .inl rfl, by rw [heq, hrefused]; rfl⟩

/-- An override that is set after a use was set before, or it is that of the member, and the
permissions of the declaring class contain the flag. -/
theorem mem_overrides_withOverride (huse : m.IsUse use) {id : MemberId}
    (hid : id ∈ (s.withOverride m kind use).2.overrides) :
    id ∈ s.overrides ∨ id = m.id ∧ s.permissions.canControl m.declaring kind = true := by
  obtain ⟨outcome, s', hcarried, -, heq⟩ | ⟨-, hcontrol, heq⟩ | ⟨-, -, heq⟩ :=
    huse.withOverride_cases s kind
  · rw [heq, m.snd_reported, ← hcarried, huse.overrides_eq] at hid
    exact .inl hid
  · rw [heq, m.snd_reported, huse.overrides_eq] at hid
    have haccessible : (s.setAccessible m.id true).isAccessible id = true := by
      simpa [State.isAccessible] using hid
    rw [State.isAccessible_setAccessible] at haccessible
    split at haccessible
    · next hself => exact .inr ⟨hself, hcontrol⟩
    · exact .inl (by simpa [State.isAccessible] using haccessible)
  · rw [heq] at hid
    exact .inl hid

/-- Where a member may not be used and the flag is missing, access is denied and nothing changes. -/
theorem withOverride_eq_of_refused (huse : m.IsUse use) (hpermits : s.permits m = false)
    (hcontrol : s.permissions.canControl m.declaring kind = false) :
    s.withOverride m kind use = (.error (.accessDenied m.qualifiedName), s) :=
  State.withOverride_eq_accessDenied (huse.eq_of_permits_eq_false hpermits) hcontrol

end Member.IsUse

/-! ### Members that need their override -/

/-- A member that is not public may not be used unless its override is set. -/
theorem State.permits_eq_false {s : State} {m : Member} (hprivate : m.modifiers.isPublic = false)
    (hunset : s.isAccessible m.id = false) : s.permits m = false := by
  simp [permits, hprivate, hunset]

/-- Writing a final field of objects is refused unless its override is set. -/
theorem Field.writing_eq_of_isFinal {f : Field} {s : State} (target value : Value)
    (hfinal : f.modifiers.isFinal = true) (hobjects : f.modifiers.isStatic = false)
    (hunset : s.isAccessible f.id = false) :
    f.writing target value s = (.error .illegalAccess, s) := by
  have hfinality : f.finality s = some .illegalAccess := by
    simp [finality, hfinal, hobjects, hunset]
  cases hpermits : s.permits f.toMember with
  | false => exact (f.isUse_writing target value).eq_of_permits_eq_false hpermits
  | true => simp [writing, write, hpermits, hfinality]

/-! ### Accessors -/

namespace Accessor

variable {a : Accessor} {s : State} {target : Value} {args : List Value}

/-- What an accessor does with its member, if it ever uses it. -/
def access? : Accessor → Option AccessKind
  | method _ => some .invoke
  | readField _ => some .read
  | writeField _ => some .write
  | ambiguous _ _ => none

/-- The member of the accessor cannot be used in its way unless the override is set: it is not
public, or it is a final field of objects, and written. -/
def IsRestricted : Accessor → Prop
  | method m => m.modifiers.isPublic = false
  | readField f => f.modifiers.isPublic = false
  | writeField f =>
    f.modifiers.isPublic = false ∨ f.modifiers.isFinal = true ∧ f.modifiers.isStatic = false
  | ambiguous _ _ => False

/-- An accessor fails and leaves everything as it was, or it uses its member, and this is refused if
the member is restricted and its override is not set. -/
theorem invoke_cases (a : Accessor) (s : State) (target : Value) (args : List Value) :
    (∃ e, a.invoke s target args = (.error e, s)) ∨
    ∃ kind use, a.access? = some kind ∧ a.member.IsUse use ∧
      (a.IsRestricted → s.isAccessible a.member.id = false → use s = (.error .illegalAccess, s)) ∧
        a.invoke s target args = s.withOverride a.member kind use := by
  cases a with
  | method m =>
    have huse := m.isUse_call target args
    exact .inr ⟨.invoke, _, rfl, huse, fun hprivate hunset =>
      huse.eq_of_permits_eq_false (State.permits_eq_false hprivate hunset), rfl⟩
  | readField f =>
    cases args with
    | nil =>
      have huse := f.isUse_reading target
      exact .inr ⟨.read, _, rfl, huse, fun hprivate hunset =>
        huse.eq_of_permits_eq_false (State.permits_eq_false hprivate hunset), rfl⟩
    | cons _ _ => exact .inl ⟨_, rfl⟩
  | writeField f =>
    match args with
    | [value] =>
      have huse := f.isUse_writing target value
      refine .inr ⟨.write, _, rfl, huse, fun hrestricted hunset => ?_, rfl⟩
      rcases hrestricted with hprivate | ⟨hfinal, hobjects⟩
      · exact huse.eq_of_permits_eq_false (State.permits_eq_false hprivate hunset)
      · exact f.writing_eq_of_isFinal target value hfinal hobjects hunset
    | [] => exact .inl ⟨_, rfl⟩
    | _ :: _ :: _ => exact .inl ⟨_, rfl⟩
  | ambiguous m cause => exact .inl ⟨_, rfl⟩

/-- An override that is set after an accessor has been used was set before, or it is that of the
accessor's member, and the permissions of the declaring class contain the flag. -/
theorem mem_overrides_invoke {id : MemberId}
    (hid : id ∈ (a.invoke s target args).2.overrides) :
    id ∈ s.overrides ∨ id = a.member.id ∧ ∃ kind, a.access? = some kind ∧
      s.permissions.canControl a.declaring kind = true := by
  obtain ⟨e, heq⟩ | ⟨kind, use, hkind, huse, -, heq⟩ := a.invoke_cases s target args
  · rw [heq] at hid
    exact .inl hid
  · rw [heq] at hid
    have hset := huse.mem_overrides_withOverride hid
    exact hset.imp_right fun ⟨hself, hcontrol⟩ => ⟨hself, kind, hkind, hcontrol⟩

/-- Where the member of an accessor may not be used and the flag is missing, the accessor fails and
leaves everything as it was. -/
theorem invoke_eq_of_refused (hpermits : s.permits a.member = false)
    (hcontrol : ∀ kind, a.access? = some kind →
      s.permissions.canControl a.declaring kind = false) :
    ∃ e, a.invoke s target args = (.error e, s) := by
  obtain ⟨e, heq⟩ | ⟨kind, use, hkind, huse, -, heq⟩ := a.invoke_cases s target args
  · exact ⟨e, heq⟩
  · exact ⟨_, heq.trans (huse.withOverride_eq_of_refused hpermits (hcontrol kind hkind))⟩

end Accessor

/-- An override that is set after an object has been made was set before, or it is that of the
constructor, and the permissions of the declaring class contain the flag. -/
theorem Constructor.mem_overrides_construct {c : Constructor} {s : State} {id : MemberId}
    (hid : id ∈ (c.construct s).2.overrides) :
    id ∈ s.overrides ∨ id = c.id ∧ s.permissions.canControl c.declaring .invoke = true :=
  (c.isUse_call []).mem_overrides_withOverride hid

end Introspection
