import Introspection.Proofs.Accessor.Override
import Introspection.Proofs.Object.Writing
import Introspection.Proofs.Registry.Layouts

/-!
# Access by name and by key

A field of an object is reached by its bare name or by its key.  A name means the first slot of that
name, and its key is the one that `Layout.keyOfName?` gives, but a key means the last slot that has
it.  The two are one slot exactly if the layout has the key once
(`Layout.position?_name_eq_iff`).

So access by name and access by key agree for the objects of a class, whatever has been done with
them, exactly if the nearest class of the superclass chain that declares an instance field of the
name declares one only (`Registry.nameAgrees_iff_declaredOnce`).
-/

namespace Introspection

/-! ### First and last places -/

section

variable {α : Type} {p : α → Bool} {as : List α} {a : α}

theorem lastIndex?_cons_of_neg (hp : p a = false) :
    lastIndex? p (a :: as) = (lastIndex? p as).map (· + 1) := by
  rw [lastIndex?, hp]
  cases lastIndex? p as <;> rfl

/-- An element that has the property itself is the last one exactly if none behind it has it. -/
theorem lastIndex?_cons_eq_zero_iff (hp : p a = true) :
    lastIndex? p (a :: as) = some 0 ↔ ∀ b ∈ as, p b = false := by
  rw [← lastIndex?_eq_none_iff, lastIndex?, hp]
  cases lastIndex? p as <;> simp

/-- The first element with a property is found in its last place exactly if it occurs once. -/
theorem findIdx?_eq_lastIndex?_iff [DecidableEq α] (ha : as.find? p = some a) :
    as.findIdx? p = lastIndex? (· == a) as ↔ as.count a = 1 := by
  induction as with
  | nil => cases ha
  | cons b as ih =>
    rw [List.findIdx?_cons]
    cases hp : p b with
    | true =>
      rw [List.find?_cons_of_pos hp] at ha
      cases ha
      have hlast : lastIndex? (· == a) (a :: as) = some 0 ↔ a ∉ as := by
        rw [lastIndex?_cons_eq_zero_iff (by simp)]
        exact ⟨fun hnone hmem => by simpa using hnone a hmem,
          fun hnot b hb => beq_false_of_ne fun heq => hnot (heq ▸ hb)⟩
      rw [if_pos rfl, eq_comm, hlast, List.count_cons_self, Nat.add_eq_right, List.count_eq_zero]
    | false =>
      rw [List.find?_cons_of_neg (by simp [hp])] at ha
      have hne : b ≠ a := by
        rintro rfl
        rw [List.find?_some ha] at hp
        cases hp
      rw [lastIndex?_cons_of_neg (p := (· == a)) (beq_false_of_ne hne), List.count_cons_of_ne hne,
        ← ih ha, if_neg Bool.false_ne_true]
      exact (Option.map_injective fun _ _ => Nat.succ.inj).eq_iff

end

/-! ### What a name means in a layout -/

namespace Layout

variable {l : Layout} {name : String} {key : FieldKey}

/-- A name that means a key means a slot. -/
theorem exists_position?_name (hkey : l.keyOfName? name = some key) :
    ∃ i, l.position? (.name name) = some i := by
  have hnamed : (key.name == name) = true :=
    List.find?_some (p := fun key : FieldKey => key.name == name) hkey
  rw [← Option.isSome_iff_exists, position?, List.findIdx?_isSome, List.any_eq_true]
  exact ⟨key, List.mem_of_find?_eq_some hkey, hnamed⟩

/-- A name that means no key means no slot. -/
theorem position?_name_eq_none (hnone : l.keyOfName? name = none) :
    l.position? (.name name) = none :=
  List.findIdx?_eq_none_iff.2 fun key hkey => by
    simpa using List.find?_eq_none.1 hnone key hkey

/-- A name and the key that it means are one slot exactly if the layout has the key once. -/
theorem position?_name_eq_iff (hkey : l.keyOfName? name = some key) :
    l.position? (.name name) = l.position? (.key key) ↔ l.keys.count key = 1 :=
  findIdx?_eq_lastIndex?_iff hkey

end Layout

/-! ### Calls -/

/-- What is done with objects from outside: their fields are written by name or by key, and
accessors are used. -/
inductive ObjectCall where
  /-- Writes a field of an object. -/
  | write (ref : ObjectRef) (field : FieldSelector) (value : Value)
  /-- Uses an accessor. -/
  | use (a : Accessor) (target : Value) (args : List Value)

/-- The state after a call; writing a field that is not there changes nothing. -/
def State.afterCall (s : State) : ObjectCall → State
  | .write ref field value =>
    match s.heap.write? ref field value with
    | some heap => { s with heap := heap }
    | none => s
  | .use a target args => (a.invoke s target args).2

/-- Running a body keeps all objects. -/
theorem State.keeps_runBody (s : State) (body : MethodBody) (receiver : Value)
    (args : List Value) : s.heap.Keeps (s.runBody body receiver args).2.heap := by
  have hkept := (body receiver args).keeps_run s.heap
  unfold runBody
  split
  · next hrun => rwa [hrun] at hkept
  · next hrun => rwa [hrun] at hkept

/-- Calling a method keeps all objects. -/
theorem Method.keeps_call (m : Method) (s : State) (target : Value) (args : List Value) :
    s.heap.Keeps (m.call s target args).2.heap := by
  cases hpermits : s.permits m.toMember with
  | false =>
    rw [(m.isUse_call target args).eq_of_permits_eq_false hpermits]
    exact .refl _
  | true =>
    obtain ⟨cause, hcall⟩ | ⟨body, receiver, hcall⟩ := call_cases hpermits target args
    · rw [hcall]
      exact .refl _
    · rw [hcall]
      exact s.keeps_runBody body receiver args

/-- Writing a field keeps all objects. -/
theorem Field.keeps_writing (f : Field) (target value : Value) (s : State) :
    s.heap.Keeps (f.writing target value s).2.heap := by
  obtain ⟨s', hw, heq⟩ | ⟨e, heq⟩ := f.writing_cases target value s
  · rw [heq]
    obtain ⟨-, -, ⟨-, rfl⟩ | ⟨-, ref, heap, -, hwritten, rfl⟩⟩ := write_eq_ok_iff.1 hw
    · exact .refl _
    · exact Heap.keeps_of_write? hwritten
  · rw [heq]
    exact .refl _

/-- An accessor keeps all objects if using its member does. -/
theorem Member.IsUse.keeps_withOverride {α : Type} {m : Member}
    {use : State → Except CallError α × State} (huse : m.IsUse use)
    (hkeeps : ∀ s : State, s.heap.Keeps (use s).2.heap) (s : State) (kind : AccessKind) :
    s.heap.Keeps (s.withOverride m kind use).2.heap := by
  obtain ⟨s₀, hstart, heq⟩ := huse.exists_withOverride_eq s kind
  rw [heq, m.snd_reported, ← (State.values_of_start hstart).1]
  exact hkeeps s₀

/-- Using an accessor keeps all objects. -/
theorem Accessor.keeps_invoke (a : Accessor) (s : State) (target : Value) (args : List Value) :
    s.heap.Keeps (a.invoke s target args).2.heap := by
  cases a with
  | method m => exact (m.isUse_call target args).keeps_withOverride (m.keeps_call · target args) s _
  | readField f =>
    match args with
    | [] => exact (f.isUse_reading target).keeps_withOverride (fun _ => .refl _) s _
    | _ :: _ => exact .refl _
  | writeField f =>
    match args with
    | [value] =>
      exact (f.isUse_writing target value).keeps_withOverride (f.keeps_writing target value) s _
    | [] | _ :: _ :: _ => exact .refl _
  | ambiguous m cause => exact .refl _

theorem State.keeps_afterCall (s : State) (call : ObjectCall) :
    s.heap.Keeps (s.afterCall call).heap := by
  cases call with
  | write ref field value =>
    cases hw : s.heap.write? ref field value with
    | some heap =>
      simp only [afterCall, hw]
      exact Heap.keeps_of_write? hw
    | none =>
      simp only [afterCall, hw]
      exact .refl _
  | use a target args => exact a.keeps_invoke s target args

/-- No calls take an object away. -/
theorem State.keeps_foldl_afterCall (s : State) (calls : List ObjectCall) :
    s.heap.Keeps (calls.foldl State.afterCall s).heap := by
  induction calls generalizing s with
  | nil => exact .refl _
  | cons call calls ih => exact (s.keeps_afterCall call).trans (ih (s.afterCall call))

/-! ### Agreement -/

/-- From the making of an object on, whatever is done, the name reads what the key reads that it
means. -/
def Layout.NameAgrees (l : Layout) (name : String) : Prop :=
  ∀ (s : State) (calls : List ObjectCall),
    let object := s.heap.allocate l
    let heap := (calls.foldl State.afterCall { s with heap := object.2 }).heap
    heap.read? object.1 (.name name) =
      (l.keyOfName? name).bind fun key => heap.read? object.1 (.key key)

/-- An object that has been made is there after all calls. -/
theorem State.exists_find?_foldl_afterCall (s : State) (l : Layout) (calls : List ObjectCall) :
    ∃ o, (calls.foldl State.afterCall { s with heap := (s.heap.allocate l).2 }).heap.find?
      (s.heap.allocate l).1 = some o ∧ o.layout = l :=
  State.keeps_foldl_afterCall { s with heap := (s.heap.allocate l).2 } calls _ _
    (Heap.find?_allocate_self s.heap l)

/-- A name reads what its key reads exactly if the layout has no key of the name, or the first one
once. -/
theorem Layout.nameAgrees_iff {l : Layout} {name : String} :
    l.NameAgrees name ↔ ∀ key, l.keyOfName? name = some key → l.keys.count key = 1 := by
  constructor
  · intro hagrees key hkey
    rw [← position?_name_eq_iff hkey]
    by_contra hne
    -- write another value than the key reads by name
    have ho := Heap.find?_allocate_self State.initial.heap l
    obtain ⟨i, hi⟩ := exists_position?_name hkey
    obtain ⟨old, hold⟩ := Heap.exists_read?_eq ho (List.mem_of_find?_eq_some hkey)
    obtain ⟨value, hvalue⟩ : ∃ value : Value, value ≠ old := by
      by_cases hnull : old = .null
      · exact ⟨.int 1, by simp [hnull]⟩
      · exact ⟨.null, Ne.symm hnull⟩
    obtain ⟨h', hw⟩ := Heap.exists_write?_eq ho hi value
    have hsame := hagrees .initial [.write (State.initial.heap.allocate l).1 (.name name) value]
    simp only [List.foldl_cons, List.foldl_nil, State.afterCall, hw, hkey, Option.bind_some,
      Heap.read?_of_write? hw, Heap.read?_write hw ho] at hsame
    rw [if_neg fun heq => hne heq.symm, hold] at hsame
    exact hvalue (Option.some.inj hsame)
  · intro hcount s calls object heap
    obtain ⟨o, ho, hlayout⟩ := s.exists_find?_foldl_afterCall l calls
    cases hkey : l.keyOfName? name with
    | none =>
      have hplace : o.layout.position? (.name name) = none :=
        hlayout ▸ position?_name_eq_none hkey
      simp [Heap.read?, heap, object, ho, Instance.get?, hplace]
    | some key =>
      have hplace := (position?_name_eq_iff hkey).2 (hcount key hkey)
      rw [← hlayout] at hplace
      exact Heap.read?_congr ho hplace

namespace Registry

variable {r : Registry} {id : ClassId} {c : ClassInfo}

/-- The keys of a layout are all different exactly if no class of the chain declares two instance
fields of one name.  Whatever is done with an object, it stays what it is, and a name reads what its
key reads exactly if the nearest class of the chain that declares an instance field of this name
declares one only. -/
theorem nameAgrees_iff_declaredOnce (h : r.Reachable) (hc : r.class? id = some c) :
    (c.layout.keys.Nodup ↔ ∀ owner c', r.hierarchy.Reaches .superclass id owner →
      r.class? owner = some c' → (c'.instanceFields.map (·.name)).Nodup) ∧
    (∀ (s : State) (calls : List ObjectCall), ∃ o,
      (calls.foldl State.afterCall { s with heap := (s.heap.allocate c.layout).2 }).heap.find?
        (s.heap.allocate c.layout).1 = some o ∧ o.layout = c.layout) ∧
    ∀ name, c.layout.NameAgrees name ↔ ∀ owner c', r.fieldOwner? id name = some owner →
      r.class? owner = some c' → (c'.instanceFields.map (·.name)).count name = 1 := by
  refine ⟨h.nodup_keys_iff hc, fun s => s.exists_find?_foldl_afterCall c.layout, fun name => ?_⟩
  rw [Layout.nameAgrees_iff, h.keyOfName?_layout hc]
  constructor
  · intro honce owner c' howner hc'
    rw [← h.count_keys hc (List.mem_of_find?_eq_some howner) hc' name]
    exact honce _ (by rw [howner, Option.map_some])
  · intro honce key hkey
    obtain ⟨owner, howner, rfl⟩ := Option.map_eq_some_iff.1 hkey
    have hmem := List.mem_of_find?_eq_some howner
    obtain ⟨c', hc'⟩ := h.wellFormed.exists_class_of_mem_superclassChain hc hmem
    rw [h.count_keys hc hmem hc' name]
    exact honce owner c' howner hc'

/-- The drafts of a class with two fields of one name, and of one that extends it and has one. -/
def pairDrafts : List ClassDraft :=
  [((ClassDraft.ofKind ⟨7⟩ "Pair" .ordinary).withField (FieldDraft.named "part" (.ofClass ⟨3⟩))
      ).withField (FieldDraft.named "part" (.ofClass ⟨3⟩)),
    ((ClassDraft.ofKind ⟨8⟩ "Triple" .ordinary).withSuperclass (.ofClass ⟨7⟩)).withField
      (FieldDraft.named "part" (.ofClass ⟨3⟩))]

theorem pairDrafts_reachable : ((definitionCalls pairDrafts).foldl after initial).Reachable :=
  reachable_definitionCalls (by decide)

/-- In an object of the first class, what has been written under the name is read by the name, but
not by the key that it means; the layout has this key twice. -/
theorem pairDrafts_names_disagree :
    let r := (definitionCalls pairDrafts).foldl after initial
    r.Reachable ∧ ∃ c, r.class? ⟨7⟩ = some c ∧ ¬ c.layout.keys.Nodup ∧
      let object := Heap.empty.allocate c.layout
      let s : State := { State.initial with heap := object.2 }
      let written := s.afterCall (.write object.1 (.name "part") (.int 1))
      written.heap.read? object.1 (.name "part") = some (.int 1) ∧
        ((c.layout.keyOfName? "part").bind fun key => written.heap.read? object.1 (.key key)) =
          some .null := by
  intro r
  have hshown : ((r.class? ⟨7⟩).any fun c =>
      let object := Heap.empty.allocate c.layout
      let s : State := { State.initial with heap := object.2 }
      let written := s.afterCall (.write object.1 (.name "part") (.int 1))
      decide (¬ c.layout.keys.Nodup ∧
        written.heap.read? object.1 (.name "part") = some (.int 1) ∧
        ((c.layout.keyOfName? "part").bind fun key => written.heap.read? object.1 (.key key)) =
          some .null)) = true := by decide +kernel
  obtain ⟨c, hc, hshown⟩ := (Option.any_eq_true _ _).1 hshown
  exact ⟨pairDrafts_reachable, c, hc, of_decide_eq_true hshown⟩

/-- In the objects of the second class the name means the one field of this class, and is read as
its key is, although not all keys are different. -/
theorem pairDrafts_nameAgrees :
    ∃ c, ((definitionCalls pairDrafts).foldl after initial).class? ⟨8⟩ = some c ∧
      ¬ c.layout.keys.Nodup ∧ c.layout.NameAgrees "part" := by
  have hshown : ((((definitionCalls pairDrafts).foldl after initial).class? ⟨8⟩).any fun c =>
      decide (¬ c.layout.keys.Nodup ∧
        (c.instanceFields.map (·.name)).count "part" = 1)) = true := by decide +kernel
  obtain ⟨c, hc, hshown⟩ := (Option.any_eq_true _ _).1 hshown
  obtain ⟨hrepeated, honce⟩ := of_decide_eq_true hshown
  refine ⟨c, hc, hrepeated, ?_⟩
  obtain ⟨-, -, hagrees⟩ := nameAgrees_iff_declaredOnce pairDrafts_reachable hc
  refine (hagrees "part").2 fun owner c' howner hc' => ?_
  have hnearest : ((definitionCalls pairDrafts).foldl after initial).fieldOwner? ⟨8⟩ "part" =
      some ⟨8⟩ := by decide +kernel
  cases hnearest.symm.trans howner
  cases hc.symm.trans hc'
  exact honce

end Registry

end Introspection
