import Introspection.Object.Heap

/-!
# Writing objects

What a write to the heap does.  A field that is written by its key has the value that was written,
and all other keys of the object and all other objects have what they had (`Heap.Puts`).  The write
succeeds exactly where the layout of the object has the key (`Heap.exists_puts`), even if it has the
key more than once: of the slots of one key the last one answers to the key, so different keys never
mean one slot (`Layout.eq_of_position?_key`).

No step takes an object away or changes its layout (`Heap.Keeps`), so a running body does not
(`Program.keeps_run`).
-/

namespace Introspection

/-! ### Places in a layout -/

section

variable {α : Type} {p : α → Bool} {as : List α} {i : Nat}

/-- The last element with a property has it. -/
theorem exists_of_lastIndex? (hi : lastIndex? p as = some i) :
    ∃ a, as[i]? = some a ∧ p a = true := by
  induction as generalizing i with
  | nil => cases hi
  | cons a as ih =>
    unfold lastIndex? at hi
    split at hi
    · next j hj =>
      cases hi
      exact ih hj
    · split at hi
      · next hp =>
        cases hi
        exact ⟨a, rfl, hp⟩
      · cases hi

/-- There is a last element with a property unless no element has it. -/
theorem lastIndex?_eq_none_iff : lastIndex? p as = none ↔ ∀ a ∈ as, p a = false := by
  induction as with
  | nil => simp [lastIndex?]
  | cons a as ih =>
    rw [lastIndex?, List.forall_mem_cons, ← ih]
    cases lastIndex? p as with
    | none => cases p a <;> simp
    | some j => simp

end

namespace Layout

variable {l : Layout} {key other : FieldKey} {i : Nat}

/-- A key means a slot with this key. -/
theorem getElem?_of_position?_key (hi : l.position? (.key key) = some i) :
    l.keys[i]? = some key := by
  obtain ⟨found, hfound, heq⟩ := exists_of_lastIndex? hi
  rwa [← eq_of_beq heq]

/-- Different keys never mean one slot. -/
theorem eq_of_position?_key (hkey : l.position? (.key key) = some i)
    (hother : l.position? (.key other) = some i) : key = other :=
  Option.some.inj ((getElem?_of_position?_key hkey).symm.trans (getElem?_of_position?_key hother))

/-- A key means a slot exactly if the layout has it. -/
theorem exists_position?_key_iff : (∃ i, l.position? (.key key) = some i) ↔ key ∈ l.keys := by
  constructor
  · rintro ⟨i, hi⟩
    exact List.mem_of_getElem? (getElem?_of_position?_key hi)
  · intro hkey
    refine Option.ne_none_iff_exists'.1 fun hnone => ?_
    simpa using lastIndex?_eq_none_iff.1 hnone key hkey

end Layout

/-! ### Writing by key -/

namespace Heap

variable {h h' h'' : Heap} {ref : ObjectRef} {o : Instance} {field : FieldSelector} {key : FieldKey}
  {value : Value}

/-- What has been written is a slot of an object. -/
theorem exists_position?_of_write? (hw : h.write? ref field value = some h') :
    ∃ o i, h.find? ref = some o ∧ o.layout.position? field = some i := by
  obtain ⟨o', ho', -⟩ := Option.map_eq_some_iff.1 hw
  obtain ⟨o, ho, hset⟩ := Option.bind_eq_some_iff.1 ho'
  obtain ⟨i, hi, -⟩ := Option.map_eq_some_iff.1 hset
  exact ⟨o, i, ho, hi⟩

/-- What a selector reads in an object that has been written: the written value where both selectors
mean one slot, and otherwise what was there. -/
theorem read?_write (hw : h.write? ref field value = some h') (ho : h.find? ref = some o)
    (other : FieldSelector) : h'.read? ref other =
      if o.layout.position? other = o.layout.position? field then some value
      else h.read? ref other := by
  obtain ⟨o', ho', -⟩ := Option.map_eq_some_iff.1 hw
  rw [read?, read?, find?_write hw ref, if_pos rfl, ho', ho, Option.bind_some, Option.bind_some]
  rw [ho, Option.bind_some] at ho'
  exact Instance.get?_of_set? ho'

/-- A field of an object that has been written has the value that was written. -/
theorem read?_of_write? (hw : h.write? ref field value = some h') :
    h'.read? ref field = some value := by
  obtain ⟨o, i, ho, -⟩ := exists_position?_of_write? hw
  rw [read?_write hw ho, if_pos rfl]

/-- The second heap differs from the first one in a single field, which has a value. -/
structure Puts (h h' : Heap) (ref : ObjectRef) (key : FieldKey) (value : Value) : Prop where
  /-- The field has the value. -/
  read?_eq : h'.read? ref (.key key) = some value
  /-- The object has what it had under every other key. -/
  read?_of_ne : ∀ other, other ≠ key → h'.read? ref (.key other) = h.read? ref (.key other)
  /-- The other objects are what they were. -/
  find?_of_ne : ∀ other : ObjectRef, other.address ≠ ref.address → h'.find? other = h.find? other

/-- A field that is written by its key is written alone. -/
theorem puts_of_write? (hw : h.write? ref (.key key) value = some h') :
    h.Puts h' ref key value := by
  obtain ⟨o, i, ho, hi⟩ := exists_position?_of_write? hw
  refine ⟨read?_of_write? hw, fun other hne => ?_, fun other hne => ?_⟩
  · rw [read?_write hw ho, hi, if_neg fun hother => hne (Layout.eq_of_position?_key hother hi)]
  · rw [find?_write hw other, if_neg hne]

/-- A slot that a selector means can be written. -/
theorem exists_write?_eq {i : Nat} (ho : h.find? ref = some o)
    (hi : o.layout.position? field = some i) (value : Value) :
    ∃ h', h.write? ref field value = some h' :=
  ⟨⟨h.objects.set ref.address (o.setAt i value)⟩, by simp [write?, ho, Instance.set?, hi]⟩

/-- A key that the layout of an object has can be written. -/
theorem exists_puts (ho : h.find? ref = some o) (hkey : key ∈ o.layout.keys) (value : Value) :
    ∃ h', h.write? ref (.key key) value = some h' ∧ h.Puts h' ref key value := by
  obtain ⟨i, hi⟩ := Layout.exists_position?_key_iff.2 hkey
  obtain ⟨h', hw⟩ := exists_write?_eq ho hi value
  exact ⟨h', hw, puts_of_write? hw⟩

/-- A key that the layout of an object has can be read. -/
theorem exists_read?_eq (ho : h.find? ref = some o) (hkey : key ∈ o.layout.keys) :
    ∃ value, h.read? ref (.key key) = some value := by
  obtain ⟨i, hi⟩ := Layout.exists_position?_key_iff.2 hkey
  have hlt : i < o.values.length := by
    rw [o.length_values, ← List.length_map (·.1)]
    exact o.layout.position?_lt hi
  exact ⟨o.values[i], by simp [read?, ho, Instance.get?, hi, hlt]⟩

/-- Selectors that mean one slot read the same. -/
theorem read?_congr {other : FieldSelector} (ho : h.find? ref = some o)
    (heq : o.layout.position? field = o.layout.position? other) :
    h.read? ref field = h.read? ref other := by
  simp only [read?, ho, Option.bind_some, Instance.get?, heq]

/-! ### Objects that stay -/

/-- Every object of the first heap is one of the second heap, with its layout. -/
def Keeps (h h' : Heap) : Prop :=
  ∀ ref o, h.find? ref = some o → ∃ o', h'.find? ref = some o' ∧ o'.layout = o.layout

theorem Keeps.refl (h : Heap) : h.Keeps h :=
  fun _ o ho => ⟨o, ho, rfl⟩

theorem Keeps.trans (hfirst : h.Keeps h') (hsecond : h'.Keeps h'') : h.Keeps h'' := by
  intro ref o ho
  obtain ⟨o', ho', hlayout⟩ := hfirst ref o ho
  obtain ⟨o'', ho'', hlayout'⟩ := hsecond ref o' ho'
  exact ⟨o'', ho'', hlayout'.trans hlayout⟩

/-- Writing keeps all objects. -/
theorem keeps_of_write? (hw : h.write? ref field value = some h') : h.Keeps h' := by
  intro other o ho
  rw [find?_write hw other]
  split
  · next heq =>
    -- the object that is written
    obtain ⟨written, i, hwritten, hi⟩ := exists_position?_of_write? hw
    rw [find?, heq] at ho
    cases hwritten.symm.trans ho
    exact ⟨o.setAt i value, by simp [hwritten, Instance.set?, hi], rfl⟩
  · exact ⟨o, ho, rfl⟩

end Heap

/-- Running a program keeps all objects. -/
theorem Program.keeps_run {α : Type} (p : Program α) (h : Heap) : h.Keeps (p.run h).2 := by
  induction p generalizing h with
  | done result => exact .refl h
  | fail reason => exact .refl h
  | read target field next ih => exact ih _ h
  | write target field value next ih =>
    unfold run
    split
    · next h' hw => exact (Heap.keeps_of_write? hw).trans (ih true h')
    · exact ih false h

end Introspection
