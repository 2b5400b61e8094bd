import Introspection.Hierarchy.Resolution
import Mathlib.Data.List.Basic

/-!
# Simultaneous substitution

`Ty.instantiate` puts a type in the place of every type variable outside bounds, all at once and
without a way to fail.  What becomes of an array is left to a parameter: `Ty.genericArray` keeps
arrays as they are written, and `Ty.textbookArray` says which array there is of a component, the
plain one of a plain class and a generic one of anything else.  The arrays that a substitution makes
where it may fail are the textbook ones (`arrayOf_eq_textbookArray`, `substitute_eq_ok`).

`Ty.freeVariables` lists the variables that are replaced.  Which variables a type has after a
substitution is said by `freeVariables_instantiate`, and a type without variables is not changed at
all (`instantiate_genericArray_eq_self`).
-/

namespace Introspection

namespace Ty

/-- Induction over types, with the hypothesis for every type in a list of arguments or bounds. -/
@[elab_as_elim]
theorem nestedInduction {motive : Ty → Prop} (plain : ∀ ref, motive (.plain ref))
    (parameterized : ∀ raw args, (∀ t ∈ args, motive t) → motive (.parameterized raw args))
    (genericArray : ∀ component, motive component → motive (.genericArray component))
    (wildcard : ∀ upper lower, (∀ t ∈ upper, motive t) → (∀ t ∈ lower, motive t) →
      motive (.wildcard upper lower))
    (var : ∀ id bounds, motive (.var id bounds)) (t : Ty) : motive t :=
  Ty.rec (motive_1 := motive) (motive_2 := fun ts => ∀ t ∈ ts, motive t) plain parameterized
    genericArray wildcard (fun id bounds _ => var id bounds) (fun t ht => by simp at ht)
    (fun head tail hhead htail t ht => by
      rcases List.mem_cons.1 ht with rfl | ht
      · exact hhead
      · exact htail t ht) t

/-! ### Variables -/

mutual

/-- The type variables outside bounds, in the order in which they are written. -/
def freeVariables : Ty → List VariableId
  | plain _ => []
  | parameterized _ args => freeVariablesAll args
  | genericArray component => component.freeVariables
  | wildcard upper lower => freeVariablesAll upper ++ freeVariablesAll lower
  | var id _ => [id]

/-- `Ty.freeVariables` of all types of a list. -/
def freeVariablesAll : List Ty → List VariableId
  | [] => []
  | t :: ts => t.freeVariables ++ freeVariablesAll ts

end

/-- The variable that the type is, if it is one with nothing around it. -/
def bareVariable? : Ty → Option VariableId
  | var id _ => some id
  | _ => none

/-- The class that the type is, if it is a plain one. -/
def plainClass? : Ty → Option ClassRef
  | plain ref => some ref
  | _ => none

/-- The type arguments; only a parameterized type has any. -/
def arguments : Ty → List Ty
  | parameterized _ args => args
  | _ => []

theorem exists_eq_var_of_bareVariable?_eq_some {t : Ty} {v : VariableId}
    (hv : t.bareVariable? = some v) : ∃ bounds, t = var v bounds := by
  cases t with
  | var id bounds =>
    obtain rfl : id = v := Option.some.inj hv
    exact ⟨bounds, rfl⟩
  | _ => cases hv

theorem freeVariablesAll_eq_flatMap (ts : List Ty) :
    freeVariablesAll ts = ts.flatMap freeVariables := by
  induction ts with
  | nil => rfl
  | cons t ts ih => simp [freeVariablesAll, ih]

/-! ### Arrays -/

/-- The array of a component: if the component is a plain class, the array of this class is plain as
well, and of any other component there is a generic array. -/
def textbookArray (component : Ty) : Ty :=
  match component.plainClass? with
  | some ref => plain (.array ref)
  | none => genericArray component

theorem arrayOf_eq_textbookArray (t : Ty) : t.arrayOf = t.textbookArray := by
  cases t <;> rfl

/-- The variables of an array are those of its component, plain or not. -/
theorem freeVariables_textbookArray (t : Ty) :
    t.textbookArray.freeVariables = t.freeVariables := by
  cases t <;> rfl

/-! ### Substitution -/

mutual

/-- Puts a type in the place of every type variable outside bounds; `array` says what an array
becomes once this has been done to its component. -/
def instantiate (array : Ty → Ty) (image : VariableId → List Ty → Ty) : Ty → Ty
  | plain ref => plain ref
  | parameterized raw args => parameterized raw (instantiateAll array image args)
  | genericArray component => array (component.instantiate array image)
  | wildcard upper lower =>
    wildcard (instantiateAll array image upper) (instantiateAll array image lower)
  | var id bounds => image id bounds

/-- `Ty.instantiate` on each type of a list. -/
def instantiateAll (array : Ty → Ty) (image : VariableId → List Ty → Ty) : List Ty → List Ty
  | [] => []
  | t :: ts => t.instantiate array image :: instantiateAll array image ts

end

variable {array : Ty → Ty} {image : VariableId → List Ty → Ty}

theorem instantiateAll_eq_map (ts : List Ty) :
    instantiateAll array image ts = ts.map (instantiate array image) := by
  induction ts with
  | nil => rfl
  | cons t ts ih => simp [instantiateAll, ih]

/-- After a substitution a type has the variables of what has been put in. -/
theorem freeVariables_instantiate (harray : ∀ t, (array t).freeVariables = t.freeVariables)
    (after : VariableId → List VariableId) (t : Ty)
    (himage : ∀ v ∈ t.freeVariables, ∀ bounds, (image v bounds).freeVariables = after v) :
    (t.instantiate array image).freeVariables = t.freeVariables.flatMap after := by
  induction t using nestedInduction with
  | plain ref => rfl
  | parameterized raw args ih =>
    simp only [freeVariables, instantiate, instantiateAll_eq_map, freeVariablesAll_eq_flatMap,
      List.flatMap_map, List.flatMap_assoc, List.mem_flatMap] at himage ⊢
    exact List.flatMap_congr fun s hs => ih s hs fun v hv => himage v ⟨s, hs, hv⟩
  | genericArray component ih =>
    simp only [instantiate, harray]
    exact ih himage
  | wildcard upper lower ihu ihl =>
    simp only [freeVariables, instantiate, instantiateAll_eq_map, freeVariablesAll_eq_flatMap,
      List.flatMap_map, List.flatMap_append, List.flatMap_assoc, List.mem_append,
      List.mem_flatMap] at himage ⊢
    congr 1
    · exact List.flatMap_congr fun s hs => ihu s hs fun v hv => himage v (.inl ⟨s, hs, hv⟩)
    · exact List.flatMap_congr fun s hs => ihl s hs fun v hv => himage v (.inr ⟨s, hs, hv⟩)
  | var id bounds => simp [instantiate, freeVariables, himage id (by simp [freeVariables]) bounds]

/-- A substitution that keeps arrays as they are written and puts every variable of a type in its
own place does not change the type; so it is if the type has no variables at all. -/
theorem instantiate_genericArray_eq_self (t : Ty)
    (hfix : ∀ v ∈ t.freeVariables, ∀ bounds, image v bounds = .var v bounds) :
    t.instantiate .genericArray image = t := by
  induction t using nestedInduction with
  | plain ref => rfl
  | parameterized raw args ih =>
    simp only [freeVariables, instantiate, instantiateAll_eq_map, freeVariablesAll_eq_flatMap,
      List.mem_flatMap] at hfix ⊢
    rw [List.map_congr_left fun s hs => ih s hs fun v hv => hfix v ⟨s, hs, hv⟩, List.map_id']
  | genericArray component ih =>
    simp only [instantiate]
    rw [ih hfix]
  | wildcard upper lower ihu ihl =>
    simp only [freeVariables, instantiate, instantiateAll_eq_map, freeVariablesAll_eq_flatMap,
      List.mem_append, List.mem_flatMap] at hfix ⊢
    rw [List.map_congr_left fun s hs => ihu s hs fun v hv => hfix v (.inl ⟨s, hs, hv⟩),
      List.map_congr_left fun s hs => ihl s hs fun v hv => hfix v (.inr ⟨s, hs, hv⟩),
      List.map_id', List.map_id']
  | var id bounds => exact hfix id (by simp [freeVariables]) bounds

/-! ### Substitution that may fail -/

theorem substituteAll_eq_ok {ε : Type} {found : VariableId → List Ty → Except ε Ty} {ts : List Ty}
    {f : Ty → Ty} (hts : ∀ t ∈ ts, t.substitute found = .ok (f t)) :
    substituteAll found ts = .ok (ts.map f) := by
  induction ts with
  | nil => rfl
  | cons t ts ih =>
    have hhead := hts t List.mem_cons_self
    have htail := ih fun s hs => hts s (List.mem_cons_of_mem _ hs)
    simp only [substituteAll, hhead, htail, List.map_cons]

/-- A substitution that fails for no variable of a type is a substitution that cannot fail, with the
textbook arrays. -/
theorem substitute_eq_ok {ε : Type} {found : VariableId → List Ty → Except ε Ty} (t : Ty)
    (hfound : ∀ v ∈ t.freeVariables, ∀ bounds, found v bounds = .ok (image v bounds)) :
    t.substitute found = .ok (t.instantiate .textbookArray image) := by
  induction t using nestedInduction with
  | plain ref => rfl
  | parameterized raw args ih =>
    simp only [freeVariables, freeVariablesAll_eq_flatMap, List.mem_flatMap] at hfound
    have hargs := substituteAll_eq_ok fun s hs => ih s hs fun v hv => hfound v ⟨s, hs, hv⟩
    simp only [substitute, hargs, instantiate, instantiateAll_eq_map]
  | genericArray component ih =>
    simp only [substitute, ih hfound, instantiate, arrayOf_eq_textbookArray]
  | wildcard upper lower ihu ihl =>
    simp only [freeVariables, freeVariablesAll_eq_flatMap, List.mem_append,
      List.mem_flatMap] at hfound
    have hupper := substituteAll_eq_ok fun s hs => ihu s hs fun v hv => hfound v (.inl ⟨s, hs, hv⟩)
    have hlower := substituteAll_eq_ok fun s hs => ihl s hs fun v hv => hfound v (.inr ⟨s, hs, hv⟩)
    simp only [substitute, hupper, hlower, instantiate, instantiateAll_eq_map]
  | var id bounds => exact hfound id (by simp [freeVariables]) bounds

end Ty

end Introspection
