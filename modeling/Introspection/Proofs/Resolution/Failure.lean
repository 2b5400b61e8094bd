import Introspection.Proofs.Resolution.BuriedVariables
import Introspection.Proofs.Resolution.Termination

/-!
# How deep resolution goes, and when it fails

What a variable stands for is found by recursion: the supertypes of the source are tried one after
the other, and the first one that leads to the declaring class is the source of the next call.
`Hierarchy.imageNested` is this recursion written out, with a limit on how deep its calls may be
nested.  In a reachable registry it needs no more nested calls than there are registered classes,
from every source and towards every declaring class, whether these are registered or not.

Resolution fails only where the source is no class and there is a variable to be resolved
(`Ty.substitute_eq_error`).  `resolve_eq_error_iff` is the main statement.
-/

namespace Introspection

/-! ### Substitution without a source -/

namespace Ty

variable {ε : Type} {found : VariableId → List Ty → Except ε Ty} {e : ε}

/-- A type without variables is resolved whatever variables stand for. -/
theorem exists_substitute_eq_ok (found : VariableId → List Ty → Except ε Ty) {t : Ty}
    (hclosed : t.freeVariables = []) : ∃ t', t.substitute found = .ok t' := by
  refine ⟨t.instantiate .textbookArray .var, substitute_eq_ok t fun v hv => ?_⟩
  rw [hclosed] at hv
  cases hv

theorem exists_substituteAll_eq_ok (found : VariableId → List Ty → Except ε Ty) {ts : List Ty}
    (hclosed : freeVariablesAll ts = []) : ∃ ts', substituteAll found ts = .ok ts' := by
  rw [freeVariablesAll_eq_flatMap, List.flatMap_eq_nil_iff] at hclosed
  refine ⟨_, substituteAll_eq_ok (f := instantiate .textbookArray .var) fun t ht => ?_⟩
  refine substitute_eq_ok t fun v hv => ?_
  rw [hclosed t ht] at hv
  cases hv

theorem substituteAll_eq_error {ts : List Ty}
    (hts : ∀ t ∈ ts, t.freeVariables ≠ [] → t.substitute found = .error e)
    (hfree : freeVariablesAll ts ≠ []) : substituteAll found ts = .error e := by
  induction ts with
  | nil => exact absurd rfl hfree
  | cons t ts ih =>
    by_cases hhead : t.freeVariables = []
    · obtain ⟨t', hok⟩ := exists_substitute_eq_ok found hhead
      have htail : substituteAll found ts = .error e := by
        refine ih (fun s hs => hts s (List.mem_cons_of_mem _ hs)) ?_
        simpa [freeVariablesAll, hhead] using hfree
      simp only [substituteAll, hok, htail]
    · simp only [substituteAll, hts t List.mem_cons_self hhead]

/-- If nothing can be found for any variable, a type with variables cannot be resolved. -/
theorem substitute_eq_error (hfound : ∀ v bounds, found v bounds = .error e) (t : Ty)
    (hfree : t.freeVariables ≠ []) : t.substitute found = .error e := by
  induction t using nestedInduction with
  | plain ref => exact absurd rfl hfree
  | parameterized raw args ih => simp only [substitute, substituteAll_eq_error ih hfree]
  | genericArray component ih => simp only [substitute, ih hfree]
  | wildcard upper lower ihu ihl =>
    by_cases hupper : freeVariablesAll upper = []
    · obtain ⟨upper', hok⟩ := exists_substituteAll_eq_ok found hupper
      have hlower : freeVariablesAll lower ≠ [] := by simpa [freeVariables, hupper] using hfree
      simp only [substitute, hok, substituteAll_eq_error ihl hlower]
    · simp only [substitute, substituteAll_eq_error ihu hupper]
  | var id bounds => exact hfound id bounds

/-- A type that neither is a declared class nor has type arguments is no class. -/
theorem rawClass?_eq_none_iff {t : Ty} :
    t.rawClass? = none ↔ (∀ id, t ≠ .ofClass id) ∧ ∀ raw args, t ≠ .parameterized raw args := by
  cases t with
  | plain ref => cases ref <;> simp [rawClass?, ofClass]
  | _ => simp [rawClass?, ofClass]

end Ty

namespace Hierarchy

variable {h : Hierarchy} {declaring id : ClassId} {source : Ty}

/-! ### The recursion written out -/

/-- Tries supertypes of a class in turn.  The first one that binds the variable or leads to the
declaring class decides; `above` is what the recursion finds from the latter. -/
def tryEach (h : Hierarchy) (declaring id : ClassId) (v : VariableId) (source : Ty)
    (above : Ty → Option (Except ResolveError Ty)) : List Ty → Option (Except ResolveError Ty)
  | [] => some (.ok .object)
  | written :: rest =>
    match h.boundArg? declaring v (h.translate id source written) with
    | some arg => some (.ok arg)
    | none =>
      if h.leadsTo declaring written then above (h.translate id source written)
      else tryEach h declaring id v source above rest

/-- What the recursion finds for a variable of the declaring class, or how it fails, seen from a
source.  `none` if its calls are nested deeper than `depth`. -/
def imageNested (h : Hierarchy) (declaring : ClassId) (v : VariableId) (bounds : List Ty) :
    (depth : Nat) → (source : Ty) → Option (Except ResolveError Ty)
  | 0, _ => none
  | depth + 1, source =>
    match source.rawClass? with
    | none => some (.error (.invalidSource (h.typeName source)))
    | some id =>
      if id = declaring then some (.ok (bounds.headD .object))
      else
        h.tryEach declaring id v source (h.imageNested declaring v bounds depth)
          (h.declaration id).supertypes

/-- A supertype that binds a variable is an instance of the declaring class, and so leads to it. -/
theorem leadsTo_of_boundArg?_eq_some {v : VariableId} {written arg : Ty}
    (hbound : h.boundArg? declaring v (h.translate id source written) = some arg) :
    h.leadsTo declaring written = true := by
  by_cases hraw : written.rawClass? = some declaring
  · simp [leadsTo, hraw, isSubclass_refl]
  · rw [boundArg?_of_rawClass?_ne v (by rwa [rawClass?_translate])] at hbound
    cases hbound

/-- Trying supertypes in turn is going on from the first one that leads to the declaring class. -/
theorem tryEach_eq (v : VariableId) (above : Ty → Option (Except ResolveError Ty))
    (supertypes : List Ty) :
    h.tryEach declaring id v source above supertypes =
      match (supertypes.find? (h.leadsTo declaring)).map (h.translate id source) with
      | none => some (.ok .object)
      | some parent =>
        match h.boundArg? declaring v parent with
        | some arg => some (.ok arg)
        | none => above parent := by
  induction supertypes with
  | nil => rfl
  | cons written rest ih =>
    by_cases hleads : h.leadsTo declaring written = true
    · rw [List.find?_cons_of_pos hleads, tryEach, if_pos hleads]
      rfl
    · have hbound : h.boundArg? declaring v (h.translate id source written) = none :=
        Option.eq_none_iff_forall_ne_some.2 fun arg harg =>
          hleads (leadsTo_of_boundArg?_eq_some harg)
      rw [List.find?_cons_of_neg hleads, tryEach, hbound, if_neg hleads, ih]

/-- From a class the recursion does what the resolver does, and it never fails: every type that it
goes on from is a class again. -/
theorem imageNested_eq_map (declaring : ClassId) (v : VariableId) (bounds : List Ty) (depth : Nat)
    (hsource : source.rawClass? = some id) :
    h.imageNested declaring v bounds depth source =
      (h.imageWithin declaring v bounds depth source).map .ok := by
  induction depth generalizing source id with
  | zero => rfl
  | succ depth ih =>
    rw [imageNested, imageWithin, hsource]
    by_cases hdeclaring : id = declaring
    · simp [hdeclaring]
    · simp only [hdeclaring, if_false]
      rw [tryEach_eq, ← stepTowards?]
      cases hstep : h.stepTowards? declaring id source with
      | none => rfl
      | some parent =>
        cases hbound : h.boundArg? declaring v parent with
        | some arg => simp [hbound]
        | none =>
          obtain ⟨raw, hraw, -⟩ := exists_edge_of_stepTowards? hstep
          simp only [hbound, ih hraw]

end Hierarchy

/-! ### Reachable registries -/

namespace Registry

variable {r : Registry}

/-- The hierarchy of a well-formed registry has a ranking in which a class with supertypes ranks
below the number of registered classes. -/
theorem WellFormed.exists_ranking_lt_size (hr : r.WellFormed) :
    ∃ ranking : r.hierarchy.Ranking, ∀ {id parent},
      r.hierarchy.Edge .parents id parent → ranking.rank id < r.size := by
  obtain ⟨rank, hrank⟩ := hr.ranked
  have hsize : ∀ {id parent}, r.hierarchy.Edge .parents id parent → rank id < r.size := by
    intro id parent hedge
    obtain ⟨c, hc, -⟩ := edge_parents_iff.1 hedge
    exact (hrank hc).1
  refine ⟨⟨rank, ?_, fun hedge => Nat.lt_of_lt_of_le (hsize hedge) hr.size_le_length⟩, hsize⟩
  intro id parent hedge
  obtain ⟨c, hc, hparent⟩ := edge_parents_iff.1 hedge
  exact (hrank hc).2 parent hparent

/-- At least one class is registered. -/
theorem Reachable.size_pos (h : r.Reachable) : 0 < r.size := by
  obtain ⟨c, hc⟩ : ∃ c, Registry.initial.class? .object = some c := ⟨_, rfl⟩
  obtain ⟨rank, hrank⟩ := h.wellFormed.ranked
  exact Nat.zero_lt_of_lt (hrank (h.extends_initial _ c hc)).1

/-- With as many nested calls as there are registered classes, or more, the recursion finds what the
resolver finds. -/
theorem Reachable.imageNested_eq_image (h : r.Reachable) (source : Ty) (declaring : ClassId)
    (v : VariableId) (bounds : List Ty) (more : Nat) :
    r.hierarchy.imageNested declaring v bounds (r.size + more) source =
      some (r.hierarchy.image source declaring v bounds) := by
  have hpos : 0 < r.size := h.size_pos
  obtain ⟨depth, hdepth⟩ : ∃ depth, r.size + more = depth + 1 := ⟨r.size + more - 1, by omega⟩
  rw [hdepth]
  cases hsource : source.rawClass? with
  | none => rw [Hierarchy.imageNested, Hierarchy.image, hsource]
  | some id =>
    obtain ⟨ranking, hrank⟩ := h.wellFormed.exists_ranking_lt_size
    obtain ⟨ty, hty⟩ := ranking.exists_imageWithin_eq declaring v bounds hsource
    have hwithin : r.hierarchy.imageWithin declaring v bounds (depth + 1) source = some ty := by
      refine hty depth fun parent hedge => ?_
      have := hrank hedge
      omega
    -- the bound that the resolver works with is large enough as well
    have hbound : r.hierarchy.imageWithin declaring v bounds
        (r.hierarchy.declarations.length + 1) source = some ty :=
      hty _ fun parent hedge => Nat.le_of_lt (ranking.lt_length hedge)
    rw [Hierarchy.imageNested_eq_map declaring v bounds _ hsource, hwithin, Hierarchy.image, hsource]
    simp [hbound]

/-- In every reachable registry resolution comes to an end, with no more nested calls than there are
registered classes.  It fails exactly if the source is neither a declared class nor has type
arguments and a variable occurs outside bounds, and the error names the source. -/
theorem resolve_eq_error_iff (h : r.Reachable) (source : Ty) (declaring : ClassId) :
    (∀ v bounds more, r.hierarchy.imageNested declaring v bounds (r.size + more) source =
      some (r.hierarchy.image source declaring v bounds)) ∧
    ∀ ty e, r.hierarchy.resolve ty source declaring = .error e ↔
      ((∀ id, source ≠ .ofClass id) ∧ ∀ raw args, source ≠ .parameterized raw args) ∧
        ty.freeVariables ≠ [] ∧ e = .invalidSource (r.hierarchy.typeName source) := by
  refine ⟨h.imageNested_eq_image source declaring, fun ty e => ?_⟩
  rw [← Ty.rawClass?_eq_none_iff, Hierarchy.resolve]
  cases hsource : source.rawClass? with
  | some id =>
    -- from a class the recursion always has an answer
    have hfound : ∀ v bounds, ∃ ty', r.hierarchy.image source declaring v bounds = .ok ty' := by
      intro v bounds
      rw [Hierarchy.image, hsource]
      exact ⟨_, rfl⟩
    choose image himage using hfound
    rw [Ty.substitute_eq_ok ty fun v _ bounds => himage v bounds]
    simp
  | none =>
    have himage : ∀ v bounds, r.hierarchy.image source declaring v bounds =
        .error (.invalidSource (r.hierarchy.typeName source)) := by
      intro v bounds
      rw [Hierarchy.image, hsource]
    by_cases hfree : ty.freeVariables = []
    · obtain ⟨ty', hty'⟩ := Ty.exists_substitute_eq_ok (r.hierarchy.image source declaring) hfree
      simp [hty', hfree]
    · simp [Ty.substitute_eq_error himage ty hfree, hfree, eq_comm]

/-- From the leaf the recursion finds the parameter of the box; from an array of leaves no type that
mentions it can be resolved. -/
theorem boxCalls_resolve_eq_error :
    let r := boxCalls.foldl after initial
    (∀ more, r.hierarchy.imageNested ⟨8⟩ ⟨"T", .classOwner ⟨8⟩⟩ [] (r.size + more) (.ofClass ⟨10⟩) =
      some (.ok (.parameterized ⟨7⟩ [.var ⟨"E", .classOwner ⟨9⟩⟩ []]))) ∧
    r.hierarchy.resolve (.genericArray (.wildcard [] [.var ⟨"T", .classOwner ⟨8⟩⟩ []]))
      (.plain (.array (.declared ⟨10⟩))) ⟨8⟩ = .error (.invalidSource "Leaf[]") := by
  have hfound : (boxCalls.foldl after initial).hierarchy.image (.ofClass ⟨10⟩) ⟨8⟩
      ⟨"T", .classOwner ⟨8⟩⟩ [] = .ok (.parameterized ⟨7⟩ [.var ⟨"E", .classOwner ⟨9⟩⟩ []]) := by
    cbv
  have hname : (boxCalls.foldl after initial).hierarchy.typeName
      (.plain (.array (.declared ⟨10⟩))) = "Leaf[]" := by cbv
  have hreachable : (boxCalls.foldl after initial).Reachable := boxCalls_reachable
  generalize boxCalls.foldl after initial = r at *
  obtain ⟨hnested, -⟩ := resolve_eq_error_iff hreachable (.ofClass ⟨10⟩) ⟨8⟩
  obtain ⟨-, hfails⟩ := resolve_eq_error_iff hreachable (.plain (.array (.declared ⟨10⟩))) ⟨8⟩
  refine ⟨fun more => (hnested _ _ more).trans (congrArg some hfound), ?_⟩
  have hsource : (Ty.plain (.array (.declared ⟨10⟩))).rawClass? = none := rfl
  refine (hfails _ _).2 ⟨Ty.rawClass?_eq_none_iff.1 hsource, ?_, by rw [hname]⟩
  simp [Ty.freeVariables, Ty.freeVariablesAll]

end Registry

end Introspection
