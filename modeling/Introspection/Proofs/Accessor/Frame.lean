import Introspection.Metadata.Basic
import Introspection.Proofs.Accessor.Override

/-!
# What accessors leave alone

Using an accessor changes no permission and takes no override back (`Accessor.invoke_frame`), and
the same goes for making an object (`Metadata.newInstance_frame`).

Where the member of an accessor is restricted and neither its override nor the flag is there, the
accessor fails and leaves everything as it was (`Accessor.exists_invoke_eq_error`).
-/

namespace Introspection

/-! ### Uses -/

namespace Member.IsUse

variable {α : Type} {m : Member} {use : State → Except CallError α × State} {s : State}
  {kind : AccessKind}

/-- No use changes a permission. -/
theorem permissions_eq (huse : m.IsUse use) (s : State) :
    (use s).2.permissions = s.permissions := by
  rcases huse s with hrefused | ⟨-, outcome, s', hcarried, -, -, hpermissions⟩
  · rw [hrefused]
  · rw [hcarried, hpermissions]

/-- No override is taken back, and no permission changed, when a member is used. -/
theorem withOverride_frame (huse : m.IsUse use) (s : State) (kind : AccessKind) :
    s.overrides ⊆ (s.withOverride m kind use).2.overrides ∧
      (s.withOverride m kind use).2.permissions = s.permissions := by
  obtain ⟨outcome, s', hcarried, -, heq⟩ | ⟨-, -, heq⟩ | ⟨-, -, heq⟩ :=
    huse.withOverride_cases s kind
  · rw [heq, m.snd_reported, ← hcarried, huse.overrides_eq, huse.permissions_eq]
    exact ⟨fun _ h => h, rfl⟩
  · rw [heq, m.snd_reported, huse.overrides_eq, huse.permissions_eq]
    refine ⟨fun id hid => ?_, rfl⟩
    have hset := State.isAccessible_setAccessible s m.id id true
    by_cases hself : id = m.id
    · simpa [State.isAccessible, hself] using hset
    · simpa [State.isAccessible, hself, hid] using hset
  · rw [heq]
    exact ⟨fun _ h => h, rfl⟩

end Member.IsUse

/-! ### Accessors -/

namespace Accessor

/-- Using an accessor takes no override back and changes no permission. -/
theorem invoke_frame (a : Accessor) (s : State) (target : Value) (args : List Value) :
    s.overrides ⊆ (a.invoke s target args).2.overrides ∧
      (a.invoke s target args).2.permissions = s.permissions := by
  obtain ⟨e, heq⟩ | ⟨kind, use, -, huse, -, heq⟩ := a.invoke_cases s target args
  · rw [heq]
    exact ⟨fun _ h => h, rfl⟩
  · rw [heq]
    exact huse.withOverride_frame s kind

/-- Where the member of an accessor is restricted, its override is not set and the flag is missing,
the accessor fails and leaves everything as it was. -/
theorem exists_invoke_eq_error {a : Accessor} {s : State} {kind : AccessKind}
    (hkind : a.access? = some kind) (hrestricted : a.IsRestricted)
    (hunset : s.isAccessible a.member.id = false)
    (hcontrol : s.permissions.canControl a.declaring kind = false) (target : Value)
    (args : List Value) : ∃ e, a.invoke s target args = (.error e, s) := by
  obtain ⟨e, heq⟩ | ⟨kind', use, hkind', huse, hrefused, heq⟩ := a.invoke_cases s target args
  · exact ⟨e, heq⟩
  · cases hkind.symm.trans hkind'
    have hdenied := State.withOverride_eq_accessDenied (hrefused hrestricted hunset) hcontrol
    exact ⟨_, heq.trans hdenied⟩

end Accessor

/-- Making an object takes no override back and changes no permission. -/
theorem Constructor.construct_frame (c : Constructor) (s : State) :
    s.overrides ⊆ (c.construct s).2.overrides ∧ (c.construct s).2.permissions = s.permissions :=
  (c.isUse_call []).withOverride_frame s .invoke

/-- Making an object with the metadata of a class takes no override back and changes no
permission. -/
theorem Metadata.newInstance_frame (m : Metadata) (s : State) :
    s.overrides ⊆ (m.newInstance s).2.overrides ∧
      (m.newInstance s).2.permissions = s.permissions := by
  unfold newInstance
  split
  · next c _ => exact c.construct_frame s
  · exact ⟨fun _ h => h, rfl⟩

end Introspection
