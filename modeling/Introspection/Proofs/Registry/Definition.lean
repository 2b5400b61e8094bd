import Introspection.Proofs.Registry.WellFormed

/-!
# Where classes come from

Every registered class is the class of a draft, defined when the registry was at an earlier stage
(`Reachable.exists_define`).  What drafts leave no choice about therefore holds of all registered
classes: a method belongs to the class that declares it, no two fields have one identity, and a
record is final, so no class extends a record.
-/

namespace Introspection

namespace Registry

variable {r r' : Registry} {d : ClassDraft} {id : ClassId} {c : ClassInfo}

/-- A draft that may have been registered: one that has been described step by step, or that of one
of the first classes. -/
def Admitted (d : ClassDraft) : Prop :=
  d.Described ∨ d ∈ initialDrafts

/-- Every class is that of an admitted draft. -/
def Drafted (r : Registry) : Prop :=
  ∀ id c, r.class? id = some c →
    ∃ (earlier : Registry) (d : ClassDraft), Admitted d ∧ d.id = id ∧ c = earlier.define d

/-- A registration adds the class of its draft. -/
theorem Drafted.register (hr : r.Drafted) (hd : Admitted d) (hok : r.register d = .ok r') :
    r'.Drafted := by
  obtain ⟨hslot, -, -, rfl⟩ := register_eq_ok_iff.1 hok
  intro id c hc
  rcases class?_install_cases (lt_length_of_slot hslot) hc with ⟨rfl, rfl⟩ | ⟨-, hc⟩
  · exact ⟨r, d, hd, rfl, rfl⟩
  · exact hr id c hc

/-- Every class of a reachable registry has been defined from an admitted draft. -/
theorem Reachable.exists_define (h : r.Reachable) (hc : r.class? id = some c) :
    ∃ (earlier : Registry) (d : ClassDraft), Admitted d ∧ d.id = id ∧ c = earlier.define d := by
  suffices hdrafted : r.Drafted from hdrafted id c hc
  clear hc
  induction h with
  | initial =>
    refine Except.foldlM_eq_ok_induction foldlM_register_initialDrafts ?_ ?_
    · intro id c hc
      rw [class?_vacant] at hc
      cases hc
    · exact fun d hd r r' hr hok => hr.register (.inr hd) hok
  | @after r h call hcall ih =>
    cases call with
    | reserve name kind =>
      intro id c hc
      exact ih id c ((class?_reserve r name kind id).symm.trans hc)
    | register d =>
      cases hok : r.register d with
      | error e => rwa [after_register_of_eq_error hok]
      | ok r' =>
        rw [after_register_of_eq_ok hok]
        exact ih.register (.inl hcall) hok

/-- A method belongs to the class that declares it. -/
theorem Reachable.declaring_of_mem_methods (h : r.Reachable) (hc : r.class? id = some c)
    {m : Method} (hm : m ∈ c.methods) : m.declaring = id := by
  obtain ⟨earlier, d, -, rfl, rfl⟩ := h.exists_define hc
  obtain ⟨i, hi, rfl⟩ := List.mem_mapIdx.1 hm
  rfl

/-- A field belongs to the class that declares it. -/
theorem Reachable.declaring_of_mem_fields (h : r.Reachable) (hc : r.class? id = some c) {f : Field}
    (hf : f ∈ c.fields) : f.declaring = id := by
  obtain ⟨earlier, d, -, rfl, rfl⟩ := h.exists_define hc
  obtain ⟨i, hi, rfl⟩ := List.mem_mapIdx.1 hf
  rfl

/-- A constructor belongs to the class that declares it. -/
theorem Reachable.declaring_of_mem_constructors (h : r.Reachable) (hc : r.class? id = some c)
    {k : Constructor} (hk : k ∈ c.constructors) : k.declaring = id := by
  obtain ⟨earlier, d, -, rfl, rfl⟩ := h.exists_define hc
  obtain ⟨i, hi, rfl⟩ := List.mem_mapIdx.1 hk
  rfl

/-- Fields with one identity are one field, whatever classes declare them. -/
theorem Reachable.eq_of_mem_fields (h : r.Reachable) {id' : ClassId} {c' : ClassInfo}
    (hc : r.class? id = some c) (hc' : r.class? id' = some c') {f f' : Field} (hf : f ∈ c.fields)
    (hf' : f' ∈ c'.fields) (heq : f.id = f'.id) : f = f' := by
  obtain rfl : id = id' := (h.declaring_of_mem_fields hc hf).symm.trans
    ((congrArg MemberId.owner heq).trans (h.declaring_of_mem_fields hc' hf'))
  cases hc.symm.trans hc'
  -- in one class the identities are the places in the list
  obtain ⟨earlier, d, -, rfl, rfl⟩ := h.exists_define hc
  obtain ⟨i, hi, rfl⟩ := List.mem_mapIdx.1 hf
  obtain ⟨j, hj, rfl⟩ := List.mem_mapIdx.1 hf'
  obtain rfl : i = j := congrArg MemberId.index heq
  rfl

/-- Records are final. -/
theorem Reachable.isFinal_of_isRecord (h : r.Reachable) (hc : r.class? id = some c)
    (hrecord : c.isRecord = true) : c.modifiers.isFinal = true := by
  obtain ⟨earlier, d, hd, -, rfl⟩ := h.exists_define hc
  have hkind : d.kind = .record := by simpa [ClassInfo.isRecord, define] using hrecord
  rcases hd with hdescribed | hfirst
  · exact hdescribed.isFinal_of_record hkind
  · -- none of the first classes is a record
    have hordinary : ∀ d ∈ initialDrafts, d.kind = .ordinary := by
      simp [initialDrafts, ClassDraft.ofKind, ClassDraft.asFinal, ClassDraft.asAbstract]
    rw [hordinary d hfirst] at hkind
    cases hkind

/-- No class extends a record. -/
theorem Reachable.isRecord_of_superclass (h : r.Reachable) (hc : r.class? id = some c)
    {raw : ClassId} {parent : ClassInfo} (hsuper : c.superclass.bind Ty.rawClass? = some raw)
    (hparent : r.class? raw = some parent) : parent.isRecord = false := by
  obtain ⟨ty, hty, hraw⟩ := Option.bind_eq_some_iff.1 hsuper
  obtain ⟨-, raw', parent', hraw', hparent', -, hfinal⟩ := h.wellFormed.superclass hc ty hty
  cases hraw.symm.trans hraw'
  cases hparent.symm.trans hparent'
  rw [← Bool.not_eq_true]
  intro hrecord
  rw [h.isFinal_of_isRecord hparent hrecord] at hfinal
  cases hfinal

end Registry

end Introspection
