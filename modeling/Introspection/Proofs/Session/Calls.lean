import Introspection.Proofs.Accessor.Frame
import Introspection.Proofs.Session.Basic

/-!
# Calls in sessions

Two kinds of actions call a member: making an object and using an accessor.  Their outcome is
`outcome?`, and the state after the action is that of the outcome.  Such a call takes no override
back and changes no permission (`outcome?_frame`), and if it sets an override it has been granted
this (`mem_overrides_outcome?`).  All other actions leave the overrides alone.

A call that needs an override that is not set, at a time when the flag is missing, fails and leaves
everything as it was (`exists_outcome?_eq_error`, `outcome?_eq_accessDenied`).
-/

namespace Introspection.Session

/-- The outcome of an action that makes an object or uses an accessor, if there is the metadata that
it refers to. -/
def outcome? (s : Session) : Action → Option (Except ReflectionError Value × State)
  | .construct index => (s.built[index]?).map (·.newInstance s.state)
  | .invoke index direction name target args => s.invoke index direction name target args
  | _ => none

variable {s : Session} {action : Action} {outcome : Except ReflectionError Value × State}

/-- A call leads to the state of its outcome. -/
theorem state_step_of_outcome? (h : s.outcome? action = some outcome) :
    (s.step action).state = outcome.2 := by
  cases action with
  | construct index =>
    obtain ⟨m, hm, rfl⟩ := Option.map_eq_some_iff.1 h
    simp [step, hm]
  | invoke index direction name target args =>
    have h : s.invoke index direction name target args = some outcome := h
    simp [step, h]
  | _ => cases h

/-- A call takes no override back and changes no permission. -/
theorem outcome?_frame (h : s.outcome? action = some outcome) :
    s.state.overrides ⊆ outcome.2.overrides ∧ outcome.2.permissions = s.state.permissions := by
  cases action with
  | construct index =>
    obtain ⟨m, -, rfl⟩ := Option.map_eq_some_iff.1 h
    exact m.newInstance_frame s.state
  | invoke index direction name target args =>
    cases ha : s.accessor? index direction name with
    | none =>
      rw [invoke_eq_of_accessor?_eq_none ha target args h]
      exact ⟨fun _ hid => hid, rfl⟩
    | some a =>
      cases (invoke_eq_of_accessor? ha target args).symm.trans h
      exact a.invoke_frame s.state target args
  | _ => cases h

/-- Whatever is no call leaves the overrides alone. -/
theorem overrides_step_of_outcome?_eq_none (h : s.outcome? action = none) :
    (s.step action).state.overrides = s.state.overrides := by
  cases action with
  | construct index =>
    have hm : s.built[index]? = none := Option.map_eq_none_iff.1 h
    simp [step, hm]
  | invoke index direction name target args =>
    have h : s.invoke index direction name target args = none := h
    simp [step, h]
  | configure c =>
    unfold step
    dsimp only
    split <;> rfl
  | build id =>
    unfold step
    dsimp only
    split <;> rfl
  | _ => rfl

/-- No action takes an override back. -/
theorem overrides_subset_step (s : Session) (action : Action) :
    s.state.overrides ⊆ (s.step action).state.overrides := by
  cases h : s.outcome? action with
  | none => exact fun _ hid => overrides_step_of_outcome?_eq_none h ▸ hid
  | some outcome =>
    rw [state_step_of_outcome? h]
    exact (outcome?_frame h).1

/-- An override that is set after a call was set before, or the call uses the member, and the
permissions of the declaring class contain the flag. -/
theorem mem_overrides_outcome? (h : s.outcome? action = some outcome) {id : MemberId}
    (hid : id ∈ outcome.2.overrides) :
    id ∈ s.state.overrides ∨ ∃ m kind, s.use? action = some (m, kind) ∧ m.id = id ∧
      s.state.permissions.canControl m.declaring kind = true := by
  cases action with
  | construct index =>
    obtain ⟨m, hm, rfl⟩ := Option.map_eq_some_iff.1 h
    unfold Metadata.newInstance Metadata.defaultConstructor at hid
    cases hc : m.defaultConstructor? with
    | none =>
      rw [hc] at hid
      exact .inl hid
    | some c =>
      rw [hc] at hid
      refine (Constructor.mem_overrides_construct hid).imp_right ?_
      rintro ⟨rfl, hcontrol⟩
      exact ⟨c.toMember, .invoke, by simp [use?, hm, hc], rfl, hcontrol⟩
  | invoke index direction name target args =>
    cases ha : s.accessor? index direction name with
    | none =>
      rw [invoke_eq_of_accessor?_eq_none ha target args h] at hid
      exact .inl hid
    | some a =>
      cases (invoke_eq_of_accessor? ha target args).symm.trans h
      refine (Accessor.mem_overrides_invoke hid).imp_right ?_
      rintro ⟨rfl, kind, hkind, hcontrol⟩
      exact ⟨a.member, kind, by simp [use?, ha, hkind], rfl, hcontrol⟩
  | _ => cases h

/-! ### Refused calls -/

/-- A field that is not public cannot be accessed, and a final field of objects cannot be written,
without the override and the flag. -/
theorem exists_outcome?_eq_error {f : Field} {kind : AccessKind}
    (haccess : s.fieldAccess? action = some (f, kind))
    (hrestricted : f.modifiers.isPublic = false ∨
      kind = .write ∧ f.modifiers.isFinal = true ∧ f.modifiers.isStatic = false)
    (hunset : s.state.isAccessible f.id = false)
    (hcontrol : s.state.permissions.canControl f.declaring kind = false) :
    ∃ e, s.outcome? action = some (.error e, s.state) := by
  cases action with
  | invoke index direction name target args =>
    obtain ⟨a, ha, haccess⟩ := Option.bind_eq_some_iff.1 haccess
    have houtcome : s.outcome? (.invoke index direction name target args) =
        some (a.invoke s.state target args) := invoke_eq_of_accessor? ha target args
    have hrefused : ∃ e, a.invoke s.state target args = (.error e, s.state) := by
      cases a with
      | readField g =>
        cases haccess
        have hprivate : f.modifiers.isPublic = false :=
          hrestricted.resolve_right fun ⟨hwrite, _⟩ => by cases hwrite
        exact Accessor.exists_invoke_eq_error (a := .readField f) rfl hprivate hunset hcontrol
          target args
      | writeField g =>
        cases haccess
        exact Accessor.exists_invoke_eq_error (a := .writeField f) rfl
          (hrestricted.imp_right And.right) hunset hcontrol target args
      | method m => cases haccess
      | ambiguous m cause => cases haccess
    obtain ⟨e, he⟩ := hrefused
    exact ⟨e, by rw [houtcome, he]⟩
  | _ => cases haccess

/-- A method that is not public cannot be called, nor such a constructor, without the override and
the flag. -/
theorem outcome?_eq_accessDenied {m : Member} (huse : s.use? action = some (m, .invoke))
    (hprivate : m.modifiers.isPublic = false) (hunset : s.state.isAccessible m.id = false)
    (hcontrol : s.state.permissions.canControl m.declaring .invoke = false) :
    s.outcome? action = some (.error (.accessDenied m.qualifiedName), s.state) := by
  have hpermits : s.state.permits m = false := State.permits_eq_false hprivate hunset
  cases action with
  | construct index =>
    obtain ⟨c, hc, heq⟩ := Option.map_eq_some_iff.1 huse
    obtain ⟨built, hbuilt, hc⟩ := Option.bind_eq_some_iff.1 hc
    cases heq
    have hdenied : c.construct s.state = (.error (.accessDenied c.qualifiedName), s.state) :=
      (c.isUse_call []).withOverride_eq_of_refused hpermits hcontrol
    simp [outcome?, hbuilt, Metadata.newInstance, Metadata.defaultConstructor, hc, hdenied]
  | invoke index direction name target args =>
    obtain ⟨a, ha, heq⟩ := Option.bind_eq_some_iff.1 huse
    obtain ⟨kind, hkind, heq⟩ := Option.map_eq_some_iff.1 heq
    cases heq
    cases a with
    | method m =>
      have hdenied := (m.isUse_call target args).withOverride_eq_of_refused hpermits hcontrol
      exact (invoke_eq_of_accessor? ha target args).trans (congrArg some hdenied)
    | readField f => cases hkind
    | writeField f => cases hkind
    | ambiguous m cause => cases hkind
  | _ => cases huse

end Introspection.Session
