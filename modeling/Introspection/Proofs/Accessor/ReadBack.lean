import Introspection.Proofs.Accessor.Frame
import Introspection.Proofs.Object.Writing

/-!
# Reading what has been written

A field reads what has been written to it (`Field.read_eq_ok_of_write`).  So do the accessors of a
field, and reading needs no access of its own then: whoever could write the field through an
accessor may use it, by its modifiers or by the override that the accessor has set
(`Accessor.invoke_readField_of_writeField`).

Writing one field does not show in another static field, whether it succeeds or fails
(`Accessor.fst_invoke_readField_writeField`).
-/

namespace Introspection

variable {f g : Field} {s s' : State} {target value result : Value}

/-! ### Fields -/

namespace Field

/-- Writing a field changes no override. -/
theorem overrides_of_write (hw : f.write s target value = .ok s') :
    s'.overrides = s.overrides := by
  have hoverrides := (f.isUse_writing target value).overrides_eq s
  rwa [writing, hw] at hoverrides

/-- A field reads what has been written to it. -/
theorem read_eq_ok_of_write (hw : f.write s target value = .ok s') :
    f.read s' target = .ok value := by
  obtain ⟨hpermits, -, hplace⟩ := write_eq_ok_iff.1 hw
  have hpermits' : s'.permits f.toMember = true := by
    rw [← hpermits, State.permits, State.permits, State.isAccessible, State.isAccessible,
      overrides_of_write hw]
  simp only [read, hpermits', Bool.not_true, Bool.false_eq_true, if_false]
  obtain ⟨hstatic, rfl⟩ | ⟨hinstance, ref, heap, rfl, hwritten, rfl⟩ := hplace
  · simp [hstatic, staticValue]
  · simp [hinstance, Heap.read?_of_write? hwritten]

/-- Writing a field leaves the static values of other fields alone. -/
theorem staticValue_of_write (hw : f.write s target value = .ok s') (hne : g.id ≠ f.id) :
    g.staticValue s' = g.staticValue s := by
  obtain ⟨-, -, ⟨-, rfl⟩ | ⟨-, ref, heap, -, -, rfl⟩⟩ := write_eq_ok_iff.1 hw
  · rw [staticValue, staticValue, Assoc.find?_insert_of_ne _ _ hne]
  · rfl

end Field

/-! ### Accessors -/

/-- A use that succeeds behind an accessor has been carried out at once or with the override set. -/
theorem Member.IsUse.exists_of_withOverride_eq_ok {α : Type} {m : Member}
    {use : State → Except CallError α × State} {kind : AccessKind} {a : α} (huse : m.IsUse use)
    (hok : s.withOverride m kind use = (.ok a, s')) :
    ∃ s₀, (s₀ = s ∨ s₀ = s.setAccessible m.id true) ∧ use s₀ = (.ok a, s') := by
  obtain ⟨s₀, hstart, heq⟩ := huse.exists_withOverride_eq s kind
  refine ⟨s₀, hstart, ?_⟩
  have hreported : m.reported (use s₀) = (.ok a, s') := heq.symm.trans hok
  generalize use s₀ = outcome at hreported
  obtain ⟨e | value, s₁⟩ := outcome
  · cases hreported
  · cases hreported
    rfl

namespace Accessor

/-- A field that an accessor has written is written in the state as it was, or with the override of
the field set. -/
theorem exists_write_of_invoke (hok : (writeField f).invoke s target [value] = (.ok result, s')) :
    ∃ s₀, (s₀ = s ∨ s₀ = s.setAccessible f.id true) ∧ f.write s₀ target value = .ok s' := by
  obtain ⟨s₀, hstart, hwritten⟩ := (f.isUse_writing target value).exists_of_withOverride_eq_ok hok
  refine ⟨s₀, hstart, ?_⟩
  obtain ⟨s₁, hwrite, heq⟩ | ⟨e, heq⟩ := f.writing_cases target value s₀
  · cases heq.symm.trans hwritten
    exact hwrite
  · cases heq.symm.trans hwritten

/-- The accessors of a field read what they have written. -/
theorem invoke_readField_of_writeField
    (hok : (writeField f).invoke s target [value] = (.ok result, s')) :
    (readField f).invoke s' target [] = (.ok value, s') := by
  obtain ⟨s₀, -, hwrite⟩ := exists_write_of_invoke hok
  have hread : f.reading target s' = (.ok value, s') := by
    rw [Field.reading, Field.read_eq_ok_of_write hwrite]
  simp [invoke, State.withOverride, hread, Member.reported]

/-- Writing a field through an accessor leaves the static values of other fields alone. -/
theorem staticValue_invoke_writeField (hne : g.id ≠ f.id) :
    g.staticValue ((writeField f).invoke s target [value]).2 = g.staticValue s := by
  have hwriting : ∀ s₀, g.staticValue (f.writing target value s₀).2 = g.staticValue s₀ := by
    intro s₀
    obtain ⟨s₁, hwrite, heq⟩ | ⟨e, heq⟩ := f.writing_cases target value s₀
    · rw [heq, Field.staticValue_of_write hwrite hne]
    · rw [heq]
  obtain ⟨s₀, hstart, heq⟩ := (f.isUse_writing target value).exists_withOverride_eq s .write
  have hinvoke : (writeField f).invoke s target [value] =
      f.toMember.reported (f.writing target value s₀) := heq
  rw [hinvoke, Member.snd_reported, hwriting, Field.staticValue, Field.staticValue,
    (State.values_of_start hstart).2]

/-- Using an accessor changes nothing about who may use the members that it does not use. -/
theorem permits_invoke (a : Accessor) (s : State) (target : Value) (args : List Value) {m : Member}
    (hne : m.id ≠ a.member.id) : (a.invoke s target args).2.permits m = s.permits m := by
  have haccessible : (a.invoke s target args).2.isAccessible m.id = s.isAccessible m.id := by
    rw [State.isAccessible, State.isAccessible, Bool.eq_iff_iff, List.contains_iff_mem,
      List.contains_iff_mem]
    refine ⟨fun hset => ?_, fun hset => (a.invoke_frame s target args).1 hset⟩
    exact (mem_overrides_invoke hset).resolve_right fun hself => hne hself.1
  rw [State.permits, State.permits, haccessible]

/-- What an accessor returns that reads a static field. -/
theorem fst_invoke_readField (hstatic : g.modifiers.isStatic = true) :
    ((readField g).invoke s target []).1 =
      if s.permits g.toMember || s.permissions.canControl g.declaring .read then
        .ok (g.staticValue s)
      else .error (.accessDenied g.qualifiedName) := by
  have hread : ∀ {s₀ : State}, s₀.permits g.toMember = true →
      g.reading target s₀ = (.ok (g.staticValue s₀), s₀) := by
    intro s₀ hpermits
    simp [Field.reading, Field.read, hpermits, hstatic]
  cases hpermits : s.permits g.toMember with
  | true => simp [invoke, State.withOverride, hread hpermits, Member.reported]
  | false =>
    have hrefused := (g.isUse_reading target).eq_of_permits_eq_false hpermits
    have hset : (s.setAccessible g.id true).permits g.toMember = true := by
      rw [State.permits, State.isAccessible_setAccessible, if_pos rfl, Bool.or_true]
    cases hcontrol : s.permissions.canControl g.declaring .read with
    | false => simp [invoke, State.withOverride_eq_accessDenied hrefused hcontrol]
    | true =>
      have hvalue : g.staticValue (s.setAccessible g.id true) = g.staticValue s := rfl
      simp [invoke, State.withOverride, hrefused, hcontrol, hread hset, hvalue, Member.reported]

/-- Writing a field does not show in another static field. -/
theorem fst_invoke_readField_writeField (hstatic : g.modifiers.isStatic = true)
    (hne : g.id ≠ f.id) (target' : Value) :
    ((readField g).invoke ((writeField f).invoke s target [value]).2 target' []).1 =
      ((readField g).invoke s target' []).1 := by
  rw [fst_invoke_readField hstatic, fst_invoke_readField hstatic,
    (writeField f).permits_invoke s target [value] hne,
    ((writeField f).invoke_frame s target [value]).2, staticValue_invoke_writeField hne]

end Accessor

end Introspection
