import Introspection.Member.Call
import Introspection.Proofs.Object.Writing
import Introspection.Proofs.Registry.Layouts

/-!
# Bodies that read and write fields

A method may be declared with the name of a field that it reads or writes.  Which field this is is
decided once, when the class is registered: the instance field of this name that the class sees, its
own or else that of the nearest superclass with one (`Registry.fieldOwner?`).  Subclasses have this
field whatever they declare themselves, so the bodies keep to it on all their objects.  A name that
means no instance field leaves bodies that always fail.

`exists_class_fieldBodies` says so of every class that is registered, for the time of its
registration and for all times after it.
-/

namespace Introspection

/-- The body that a method is declared with, by the place of the method. -/
def ClassDraft.methodBody? (d : ClassDraft) (i : Nat) : Option DraftBody :=
  d.methods[i]?.bind (·.body?)

/-- The body of a declared method, by the place of the method. -/
def ClassInfo.methodBody? (c : ClassInfo) (i : Nat) : Option MethodBody :=
  c.methods[i]?.bind (·.body?)

/-- The class has the body for a method that its draft declares in this way. -/
def ClassInfo.HasBody (c : ClassInfo) (d : ClassDraft) (declared : DraftBody) (body : MethodBody) :
    Prop :=
  ∃ i, d.methodBody? i = some declared ∧ c.methodBody? i = some body

/-- The names of fields in bodies are looked up among the keys of the class. -/
theorem Registry.methodBody?_define (r : Registry) (d : ClassDraft) (i : Nat) :
    (r.define d).methodBody? i = (d.methodBody? i).map (·.bind (r.define d).layout.keys) := by
  have hmethods : (r.define d).methods = d.methods.mapIdx (d.toMethod (r.define d).layout.keys) :=
    rfl
  rw [ClassInfo.methodBody?, ClassDraft.methodBody?, hmethods, List.getElem?_mapIdx]
  cases d.methods[i]? <;> rfl

namespace ClassInfo.HasBody

variable {r : Registry} {d : ClassDraft} {declared : DraftBody} {body : MethodBody} {name : String}

/-- What a class has for a method is the declared body, with its field looked up. -/
theorem eq_bind (hbody : (r.define d).HasBody d declared body) :
    body = declared.bind (r.define d).layout.keys := by
  obtain ⟨i, hdeclared, hbody⟩ := hbody
  rw [r.methodBody?_define, hdeclared] at hbody
  exact (Option.some.inj hbody).symm

theorem eq_writing (hbody : (r.define d).HasBody d (.writes name) body) :
    body = MethodBody.writing name ((r.define d).layout.keyOfName? name) :=
  hbody.eq_bind

theorem eq_reading (hbody : (r.define d).HasBody d (.reads name) body) :
    body = MethodBody.reading name ((r.define d).layout.keyOfName? name) :=
  hbody.eq_bind

end ClassInfo.HasBody

/-! ### Running the bodies -/

namespace State

variable {s : State} {ref : ObjectRef} {o : Instance} {key : FieldKey} {value : Value}

/-- A body that writes a field that the object has changes this field and nothing else. -/
theorem exists_runBody_writing (ho : s.heap.find? ref = some o) (hkey : key ∈ o.layout.keys)
    (name : String) (value : Value) (rest : List Value) :
    ∃ heap, s.runBody (MethodBody.writing name (some key)) (.object ref) (value :: rest) =
      (.ok .null, { s with heap := heap }) ∧ s.heap.Puts heap ref key value := by
  obtain ⟨heap, hwritten, hputs⟩ := Heap.exists_puts ho hkey value
  exact ⟨heap, by simp [runBody, MethodBody.writing, Program.run, hwritten], hputs⟩

/-- A body that reads a field returns its value. -/
theorem runBody_reading (hvalue : s.heap.read? ref (.key key) = some value) (name : String)
    (args : List Value) :
    s.runBody (MethodBody.reading name (some key)) (.object ref) args = (.ok value, s) := by
  simp [runBody, MethodBody.reading, Program.run, hvalue]

/-- A body whose name means no field fails on everything, and changes nothing. -/
theorem exists_runBody_eq_error {body : MethodBody} {name : String}
    (hbody : body = MethodBody.writing name none ∨ body = MethodBody.reading name none) (s : State)
    (receiver : Value) (args : List Value) :
    ∃ reason, s.runBody body receiver args = (.error (.fault (.body reason)), s) := by
  rcases hbody with rfl | rfl <;> cases receiver <;> exact ⟨_, rfl⟩

end State

/-! ### Registered classes -/

namespace Registry

variable {r r' : Registry} {d : ClassDraft}

/-- In a class that has been registered, a method declared to write a field puts its first argument
into the instance field of this name that the nearest class of the superclass chain declares, and a
method declared to read the field returns it then; no other field changes.  This holds of the
objects of all subclasses, whatever fields these declare.  If no class of the chain declares an
instance field of the name, both bodies fail on everything and change nothing. -/
theorem exists_class_fieldBodies (h : r.Reachable) (hd : d.Described)
    (hok : r.register d = .ok r') {calls : List RegistryCall}
    (hcalls : ∀ call ∈ calls, call.Described) :
    let later := calls.foldl after r'
    ∃ c, later.class? d.id = some c ∧
      (∀ i, (c.methodBody? i).isSome = (d.methodBody? i).isSome) ∧ ∀ name,
      (∀ owner, later.fieldOwner? d.id name = some owner → ∀ sub c', later.class? sub = some c' →
        later.hierarchy.Reaches .superclass sub d.id → ∀ (s : State) ref o,
          s.heap.find? ref = some o → o.layout = c'.layout → ∀ write value rest,
            c.HasBody d (.writes name) write →
              ∃ s', s.runBody write (.object ref) (value :: rest) = (.ok .null, s') ∧
                (∃ heap, s' = { s with heap := heap }) ∧
                s.heap.Puts s'.heap ref ⟨owner, name⟩ value ∧
                ∀ read args, c.HasBody d (.reads name) read →
                  s'.runBody read (.object ref) args = (.ok value, s')) ∧
      (later.fieldOwner? d.id name = none → ∀ body,
        c.HasBody d (.writes name) body ∨ c.HasBody d (.reads name) body →
          ∀ (s : State) receiver args, ∃ reason,
            s.runBody body receiver args = (.error (.fault (.body reason)), s)) := by
  intro later
  obtain ⟨hslot, -, -, hinstall⟩ := register_eq_ok_iff.1 hok
  have hlater : later.Reachable := by
    have hr' : r'.Reachable := after_register_of_eq_ok hok ▸ h.after (.register d) hd
    exact hr'.foldl hcalls
  have hc : later.class? d.id = some (r.define d) := by
    refine extends_foldl_after r' calls d.id _ ?_
    rw [hinstall, class?_install r d d.id (lt_length_of_slot hslot), if_pos rfl]
  refine ⟨r.define d, hc, fun i => ?bodies, fun name => ⟨?bound, ?unbound⟩⟩
  case bodies => rw [r.methodBody?_define, Option.isSome_map]
  case bound =>
    intro owner howner sub c' hc' hsub s ref o ho hlayout write value rest hwrite
    have hmeans : (r.define d).layout.keyOfName? name = some ⟨owner, name⟩ := by
      rw [hlater.keyOfName?_layout hc, howner, Option.map_some]
    have hkey : FieldKey.mk owner name ∈ o.layout.keys :=
      hlayout ▸ hlater.keys_subset hc hc' hsub (List.mem_of_find?_eq_some hmeans)
    obtain ⟨heap, hwritten, hputs⟩ := State.exists_runBody_writing ho hkey name value rest
    refine ⟨{ s with heap := heap }, ?_, ⟨heap, rfl⟩, hputs, fun read args hread => ?_⟩
    · rw [hwrite.eq_writing, hmeans, hwritten]
    · rw [hread.eq_reading, hmeans]
      exact State.runBody_reading hputs.read?_eq name args
  case unbound =>
    intro hnone body hbody
    have hmeans : (r.define d).layout.keyOfName? name = none := by
      rw [hlater.keyOfName?_layout hc, hnone, Option.map_none]
    have hunbound : body = MethodBody.writing name none ∨ body = MethodBody.reading name none := by
      rw [← hmeans]
      exact hbody.imp (·.eq_writing) (·.eq_reading)
    exact State.exists_runBody_eq_error hunbound

/-- The draft of a class that writes and reads a field of its own, and tries to read another one. -/
def counterDraft : ClassDraft :=
  ((((ClassDraft.ofKind ⟨7⟩ "Counter" .ordinary).withField
    (FieldDraft.named "count" (.ofClass ⟨3⟩))).withMethod
      { MethodDraft.named "setCount" with
        params := [.ofClass ⟨3⟩], body? := some (.writes "count") }).withMethod
      { MethodDraft.named "getCount" with
        returnType := .ofClass ⟨3⟩, body? := some (.reads "count") }).withMethod
      { MethodDraft.named "getTotal" with
        returnType := .ofClass ⟨3⟩, body? := some (.reads "total") }

/-- The draft of a class that extends it and declares fields of both names. -/
def tallyDraft : ClassDraft :=
  (((ClassDraft.ofKind ⟨8⟩ "Tally" .ordinary).withSuperclass (.ofClass ⟨7⟩)).withField
    { FieldDraft.named "count" (.ofClass ⟨3⟩) with initial := .int 100 }).withField
    (FieldDraft.named "total" (.ofClass ⟨3⟩))

/-- On an object of the second class, the methods of the first class write and read the field of the
first class.  The other field is not found, although the object has one of this name. -/
theorem counterDraft_fieldBodies :
    let reserved := Registry.initial.after (.reserve "Counter" .ordinary)
    let r := [RegistryCall.reserve "Tally" .ordinary, .register tallyDraft].foldl after
      (reserved.after (.register counterDraft))
    ∃ c c' set get total, r.class? ⟨7⟩ = some c ∧ r.class? ⟨8⟩ = some c' ∧
      c.methodBody? 0 = some set ∧ c.methodBody? 1 = some get ∧ c.methodBody? 2 = some total ∧
      let object := Heap.empty.allocate c'.layout
      let s : State := { State.initial with heap := object.2 }
      ∃ s' reason, s.runBody set (.object object.1) [.int 5] = (.ok .null, s') ∧
        s'.runBody get (.object object.1) [] = (.ok (.int 5), s') ∧
        s'.heap.read? object.1 (.key ⟨⟨8⟩, "count"⟩) = some (.int 100) ∧
        s'.runBody total (.object object.1) [] = (.error (.fault (.body reason)), s') := by
  intro reserved r
  have hreserved : reserved.Reachable := Reachable.initial.after _ trivial
  have hd : counterDraft.Described := by decide
  obtain ⟨registered, hok⟩ := Option.isSome_iff_exists.1
    (show (reserved.register counterDraft).toOption.isSome = true by decide +kernel)
  have hok := Except.toOption_eq_some_iff.1 hok
  have hcalls : ∀ call ∈ [RegistryCall.reserve "Tally" .ordinary, .register tallyDraft],
      call.Described := by decide
  obtain ⟨c, hc, hbodies, hfields⟩ := exists_class_fieldBodies hreserved hd hok hcalls
  rw [← after_register_of_eq_ok hok] at hc hfields
  obtain ⟨set, hset⟩ := Option.isSome_iff_exists.1 (hbodies 0)
  obtain ⟨get, hget⟩ := Option.isSome_iff_exists.1 (hbodies 1)
  obtain ⟨total, htotal⟩ := Option.isSome_iff_exists.1 (hbodies 2)
  have hshown : ((r.class? ⟨8⟩).any fun c =>
      let object := Heap.empty.allocate c.layout
      decide (object.2.read? object.1 (.key ⟨⟨8⟩, "count"⟩) = some (.int 100))) = true := by
    decide +kernel
  obtain ⟨c', hc', hown⟩ := (Option.any_eq_true _ _).1 hshown
  refine ⟨c, c', set, get, total, hc, hc', hset, hget, htotal, ?_⟩
  intro object s
  have hsub : r.hierarchy.Reaches .superclass ⟨8⟩ ⟨7⟩ :=
    mem_superclassChain_iff.1 (by decide +kernel)
  have ho : s.heap.find? object.1 = some (Instance.ofLayout c'.layout) :=
    Heap.find?_allocate_self .empty c'.layout
  obtain ⟨s', hwritten, -, hputs, hread⟩ := (hfields "count").1 ⟨7⟩ (by decide +kernel) ⟨8⟩ c' hc'
    hsub s object.1 _ ho rfl set (.int 5) [] ⟨0, rfl, hset⟩
  obtain ⟨reason, hlost⟩ := (hfields "total").2 (by decide +kernel) total (.inr ⟨2, rfl, htotal⟩) s'
    (.object object.1) []
  refine ⟨s', reason, hwritten, hread get [] ⟨1, rfl, hget⟩, ?_, hlost⟩
  rw [hputs.read?_of_ne _ (by decide)]
  exact of_decide_eq_true hown

end Registry

end Introspection
