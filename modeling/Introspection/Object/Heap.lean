import Introspection.Object.Layout

/-!
# Objects

An object has the layout of its class and a value for each slot.  The heap holds all objects; a new
one goes to its end, so a reference stays good for ever.

`Program.run` runs a body against the heap.  What a body has written stays written even if the body
fails afterwards.
-/

namespace Introspection

/-- An object: a value for each slot of a layout. -/
structure Instance where
  /-- The layout of the object's class. -/
  layout : Layout
  /-- The values, slot by slot. -/
  values : List Value
  /-- There is one value for each slot. -/
  length_values : values.length = layout.slots.length

namespace Instance

/-- A new object, with the initial value in every slot. -/
def ofLayout (l : Layout) : Instance :=
  ⟨l, l.slots.map (·.2), by simp⟩

/-- The value of a field. -/
def get? (o : Instance) (field : FieldSelector) : Option Value :=
  (o.layout.position? field).bind (o.values[·]?)

/-- Puts a value into one slot. -/
def setAt (o : Instance) (i : Nat) (value : Value) : Instance :=
  ⟨o.layout, o.values.set i value, by simp [o.length_values]⟩

/-- The object with a field written, if it has that field. -/
def set? (o : Instance) (field : FieldSelector) (value : Value) : Option Instance :=
  (o.layout.position? field).map (o.setAt · value)

/-- The layout decides which fields an object has. -/
theorem set?_isSome (o : Instance) (field : FieldSelector) (value : Value) :
    (o.set? field value).isSome = (o.layout.position? field).isSome := by
  simp [set?]

/-- An object keeps its layout. -/
theorem layout_of_set? {o o' : Instance} {field : FieldSelector} {value : Value}
    (h : o.set? field value = some o') : o'.layout = o.layout := by
  obtain ⟨i, -, rfl⟩ := Option.map_eq_some_iff.1 h
  rfl

/-- What a selector reads after a write: the written value where both mean one slot, and otherwise
what was there. -/
theorem get?_of_set? {o o' : Instance} {field other : FieldSelector} {value : Value}
    (h : o.set? field value = some o') :
    o'.get? other =
      if o.layout.position? other = o.layout.position? field then some value
      else o.get? other := by
  obtain ⟨i, hi, rfl⟩ := Option.map_eq_some_iff.1 h
  have hlt : i < o.values.length := by
    rw [o.length_values, ← List.length_map (·.1)]
    exact o.layout.position?_lt hi
  by_cases heq : o.layout.position? other = some i
  · simp [get?, setAt, hi, heq, hlt]
  · rw [if_neg (by rw [hi]; exact heq)]
    cases hj : o.layout.position? other with
    | none => simp [get?, setAt, hj]
    | some j =>
      have hne : i ≠ j := fun e => heq (by rw [hj, e])
      simp [get?, setAt, hj, List.getElem?_set_ne hne]

/-- An object written out, with the names and the values of its fields. -/
def written (o : Instance) : String :=
  Text.record "Instance"
    (("class", o.layout.classId.written) ::
      List.zipWith (fun slot value => (slot.1.name, value.written)) o.layout.slots o.values)

end Instance

/-- All objects. -/
structure Heap where
  /-- The objects, by address. -/
  objects : List Instance

namespace Heap

/-- The heap without objects. -/
def empty : Heap := ⟨[]⟩

/-- The object behind a reference. -/
def find? (h : Heap) (ref : ObjectRef) : Option Instance :=
  h.objects[ref.address]?

/-- Adds a new object of a layout. -/
def allocate (h : Heap) (l : Layout) : ObjectRef × Heap :=
  (⟨l.classId, h.objects.length⟩, ⟨h.objects ++ [Instance.ofLayout l]⟩)

/-- The value of a field of an object. -/
def read? (h : Heap) (ref : ObjectRef) (field : FieldSelector) : Option Value :=
  (h.find? ref).bind (·.get? field)

/-- The heap with a field of an object written, if there is that field. -/
def write? (h : Heap) (ref : ObjectRef) (field : FieldSelector) (value : Value) : Option Heap :=
  ((h.find? ref).bind (·.set? field value)).map fun o => ⟨h.objects.set ref.address o⟩

/-! ### The view after each operation -/

/-- A heap that has been written differs in one object, which has the field written. -/
theorem find?_write {h h' : Heap} {ref : ObjectRef} {field : FieldSelector} {value : Value}
    (hw : h.write? ref field value = some h') (other : ObjectRef) :
    h'.find? other =
      if other.address = ref.address then (h.find? ref).bind (·.set? field value)
      else h.find? other := by
  unfold write? at hw
  obtain ⟨o, ho, rfl⟩ := Option.map_eq_some_iff.1 hw
  obtain ⟨old, hold, -⟩ := Option.bind_eq_some_iff.1 ho
  have hlt : ref.address < h.objects.length := (List.getElem?_eq_some_iff.1 hold).1
  by_cases heq : other.address = ref.address
  · simp [find?, heq, hlt, ← ho]
  · simp [find?, heq, Ne.symm heq]

/-- The object just added is found under its reference. -/
theorem find?_allocate_self (h : Heap) (l : Layout) :
    (h.allocate l).2.find? (h.allocate l).1 = some (Instance.ofLayout l) := by
  simp [allocate, find?]

/-- An object stays what it was when another one is added. -/
theorem find?_allocate_of_find? {h : Heap} {l : Layout} {ref : ObjectRef} {o : Instance}
    (hf : h.find? ref = some o) : (h.allocate l).2.find? ref = some o := by
  have hlt : ref.address < h.objects.length := (List.getElem?_eq_some_iff.1 hf).1
  simpa [allocate, find?, List.getElem?_append_left hlt] using hf

end Heap

/-- Runs a program against the heap. -/
def Program.run {α : Type} : Program α → Heap → Except String α × Heap
  | .done result, h => (.ok result, h)
  | .fail reason, h => (.error reason, h)
  | .read target field next, h => (next (h.read? target field)).run h
  | .write target field value next, h =>
    match h.write? target field value with
    | some h' => (next true).run h'
    | none => (next false).run h

end Introspection
