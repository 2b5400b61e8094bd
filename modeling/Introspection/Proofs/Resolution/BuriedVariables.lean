import Introspection.Proofs.Resolution.Substitution
import Mathlib

/-!
# Variables that resolution leaves behind

The resolver replaces a type argument of a supertype only where the argument is a type parameter
with nothing around it.  An argument such as `List<E>` keeps its variable: it is *buried*
(`Ty.BuriesVariable`), and whatever class the chain goes through afterwards, nothing replaces `E`
any more.

From the class in which it is written an argument is handed on to the declaring class, by type
parameters that stand alone (`Hierarchy.Carries`).  A place of the declaring class for which a
buried variable is written somewhere on the way is described by `Hierarchy.BuriedAt`, and
`resolve_freeVariables_eq_nil_iff` says that these places alone leave variables in a resolved type.
-/

namespace Introspection

/-- The type mentions a variable, but is none itself. -/
def Ty.BuriesVariable (t : Ty) : Prop :=
  t.bareVariable? = none ∧ t.freeVariables ≠ []

namespace Hierarchy

variable {h : Hierarchy} {declaring id raw : ClassId} {source parent last : Ty}

/-- The arguments of every written supertype of a generic class mention no variables but the type
parameters of the class that is declared. -/
def Scoped (h : Hierarchy) : Prop :=
  ∀ id, ∀ parent ∈ (h.declaration id).supertypes, ∀ raw ∈ parent.rawClass?,
    h.params raw ≠ [] → ∀ arg ∈ parent.arguments,
      ∀ v ∈ arg.freeVariables, v ∈ (h.params id).map (·.id)

instance : Decidable h.Scoped :=
  inferInstanceAs (Decidable (∀ id, ∀ parent ∈ (h.declaration id).supertypes, _))

/-- A class without type parameters, or an instance of a class whose type arguments, one for each
type parameter, have no variables. -/
def IsClosedInstance (h : Hierarchy) (id : ClassId) (source : Ty) : Prop :=
  source = .ofClass id ∧ h.params id = [] ∨
    ∃ args, args.length = (h.params id).length ∧ (∀ arg ∈ args, arg.freeVariables = []) ∧
      source = .parameterized id args

/-- The argument in place `j` of the class is handed on to place `i` of the declaring class. -/
inductive Carries (h : Hierarchy) (declaring : ClassId) : ClassId → Nat → Nat → Prop where
  /-- The declaring class has the argument itself. -/
  | here (i : Nat) : Carries h declaring declaring i i
  /-- The next supertype mentions the type parameter, alone, in a place that is handed on. -/
  | step {id raw : ClassId} {parent arg : Ty} {v : VariableId} {i j k : Nat} (hne : id ≠ declaring)
      (hfirst : h.FirstTowards declaring id parent) (hraw : parent.rawClass? = some raw)
      (harg : parent.arguments[k]? = some arg) (hbare : arg.bareVariable? = some v)
      (hplace : h.paramIndex? id v = some j) (hrest : Carries h declaring raw k i) :
      Carries h declaring id j i

/-- On the way from the class an argument with a buried variable is written for place `i` of the
declaring class. -/
inductive BuriedAt (h : Hierarchy) (declaring : ClassId) : ClassId → Nat → Prop where
  /-- The next supertype has such an argument, in a place that is handed on. -/
  | written {id raw : ClassId} {parent arg : Ty} {i k : Nat} (hne : id ≠ declaring)
      (hfirst : h.FirstTowards declaring id parent) (hraw : parent.rawClass? = some raw)
      (harg : parent.arguments[k]? = some arg) (hburies : arg.BuriesVariable)
      (hrest : h.Carries declaring raw k i) : BuriedAt h declaring id i
  /-- Such an argument is written further up. -/
  | above {id raw : ClassId} {parent : Ty} {i : Nat} (hne : id ≠ declaring)
      (hfirst : h.FirstTowards declaring id parent) (hraw : parent.rawClass? = some raw)
      (hrest : BuriedAt h declaring raw i) : BuriedAt h declaring id i

/-- The source, an instance of the class, has an argument with variables that is handed on to place
`i` of the declaring class. -/
def HandsOnVariables (h : Hierarchy) (declaring id : ClassId) (source : Ty) (i : Nat) : Prop :=
  ∃ j a, h.Carries declaring id j i ∧ source.arguments[j]? = some a ∧ a.freeVariables ≠ []

theorem IsClosedInstance.isInstance (hsource : h.IsClosedInstance id source) :
    h.IsInstance id source := by
  obtain ⟨rfl, -⟩ | ⟨args, hlength, -, rfl⟩ := hsource
  · exact .inl rfl
  · exact .inr ⟨args, hlength, rfl⟩

theorem IsClosedInstance.length_arguments (hsource : h.IsClosedInstance id source) :
    source.arguments.length = (h.params id).length := by
  obtain ⟨rfl, hparams⟩ | ⟨args, hlength, -, rfl⟩ := hsource
  · rw [hparams]
    rfl
  · exact hlength

theorem IsClosedInstance.freeVariables_eq_nil (hsource : h.IsClosedInstance id source) {arg : Ty}
    (harg : arg ∈ source.arguments) : arg.freeVariables = [] := by
  obtain ⟨rfl, -⟩ | ⟨args, -, hclosed, rfl⟩ := hsource
  · cases harg
  · exact hclosed arg harg

/-! ### One step of the chain -/

/-- Only arguments of generic classes are handed on to a generic class. -/
theorem Carries.params_ne_nil {i j : Nat} (hcarries : h.Carries declaring id j i)
    (hparams : h.params declaring ≠ []) : h.params id ≠ [] := by
  cases hcarries with
  | here => exact hparams
  | step _ _ _ _ _ hplace _ =>
    intro hnil
    simp [paramIndex?, hnil] at hplace

/-- What a class hands on is what the next supertype takes from it and hands on. -/
theorem carries_iff_of_firstTowards {i j : Nat} (hdeclaring : declaring ≠ .object)
    (hne : id ≠ declaring) (hfirst : h.FirstTowards declaring id parent)
    (hraw : parent.rawClass? = some raw) :
    h.Carries declaring id j i ↔ ∃ k arg v, h.Carries declaring raw k i ∧
      parent.arguments[k]? = some arg ∧ arg.bareVariable? = some v ∧
        h.paramIndex? id v = some j := by
  constructor
  · intro hcarries
    cases hcarries with
    | here => exact absurd rfl hne
    | step _ hfirst' hraw' harg hbare hplace hrest =>
      cases hfirst.unique hdeclaring hfirst'
      rw [hraw] at hraw'
      cases hraw'
      exact ⟨_, _, _, hrest, harg, hbare, hplace⟩
  · rintro ⟨k, arg, v, hrest, harg, hbare, hplace⟩
    exact .step hne hfirst hraw harg hbare hplace hrest

/-- A variable is buried on the way from a class in the next supertype, or further up. -/
theorem buriedAt_iff_of_firstTowards {i : Nat} (hdeclaring : declaring ≠ .object)
    (hne : id ≠ declaring) (hfirst : h.FirstTowards declaring id parent)
    (hraw : parent.rawClass? = some raw) :
    h.BuriedAt declaring id i ↔ h.BuriedAt declaring raw i ∨ ∃ k arg,
      h.Carries declaring raw k i ∧ parent.arguments[k]? = some arg ∧ arg.BuriesVariable := by
  constructor
  · intro hburied
    cases hburied with
    | written _ hfirst' hraw' harg hburies hrest =>
      cases hfirst.unique hdeclaring hfirst'
      rw [hraw] at hraw'
      cases hraw'
      exact .inr ⟨_, _, hrest, harg, hburies⟩
    | above _ hfirst' hraw' hrest =>
      cases hfirst.unique hdeclaring hfirst'
      rw [hraw] at hraw'
      cases hraw'
      exact .inl hrest
  · rintro (hrest | ⟨k, arg, hrest, harg, hburies⟩)
    · exact .above hne hfirst hraw hrest
    · exact .written hne hfirst hraw harg hburies hrest

/-- Every type parameter has a place. -/
theorem exists_paramIndex?_of_mem {v : VariableId} (hv : v ∈ (h.params id).map (·.id)) :
    ∃ i, h.paramIndex? id v = some i ∧ i < (h.params id).length := by
  obtain ⟨p, hp, hpv⟩ := List.mem_map.1 hv
  obtain ⟨i, hi⟩ : ∃ i, h.paramIndex? id v = some i := by
    rw [← Option.isSome_iff_exists, paramIndex?, List.findIdx?_isSome]
    exact List.any_eq_true.2 ⟨p, hp, by simp [hpv]⟩
  exact ⟨i, hi, (List.findIdx?_eq_some_iff_getElem.1 hi).1⟩

/-- An argument of a supertype as the resolver sees it has variables if it buries one, or if it is a
type parameter for which the source has an argument with variables. -/
theorem freeVariables_translateArg_ne_nil_iff {sourceArgs : List Ty} {arg : Ty}
    (hlength : h.params id ≠ [] → sourceArgs.length = (h.params id).length)
    (hscoped : ∀ v ∈ arg.freeVariables, v ∈ (h.params id).map (·.id)) :
    (h.translateArg id sourceArgs arg).freeVariables ≠ [] ↔ arg.BuriesVariable ∨
      ∃ v j a, arg.bareVariable? = some v ∧ h.paramIndex? id v = some j ∧
        sourceArgs[j]? = some a ∧ a.freeVariables ≠ [] := by
  cases arg with
  | var v bounds =>
    have hv := hscoped v (by simp [Ty.freeVariables])
    obtain ⟨j, hj, hlt⟩ := exists_paramIndex?_of_mem hv
    rw [← hlength fun hnil => by simp [hnil] at hv] at hlt
    have hget : sourceArgs[j]? = some sourceArgs[j] := List.getElem?_eq_getElem hlt
    simp [translateArg, hj, hget, Ty.BuriesVariable, Ty.bareVariable?]
  | _ => simp [translateArg, Ty.BuriesVariable, Ty.bareVariable?]

/-- What the next supertype hands on, in the view of the resolver, are the variables buried in it and
those that the source hands on. -/
theorem handsOnVariables_translate_iff {i : Nat} (hdeclaring : declaring ≠ .object)
    (hscoped : h.Scoped) (hparams : h.params declaring ≠ []) (hne : id ≠ declaring)
    (hfirst : h.FirstTowards declaring id parent) (hraw : parent.rawClass? = some raw)
    (hlength : h.params id ≠ [] → source.arguments.length = (h.params id).length) :
    h.HandsOnVariables declaring raw (h.translate id source parent) i ↔
      (∃ k arg, h.Carries declaring raw k i ∧ parent.arguments[k]? = some arg ∧
        arg.BuriesVariable) ∨ h.HandsOnVariables declaring id source i := by
  -- what the resolver makes of the arguments that are handed on from here
  have hseen : ∀ k b, h.Carries declaring raw k i → parent.arguments[k]? = some b →
      ((h.translateArg id source.arguments b).freeVariables ≠ [] ↔ b.BuriesVariable ∨
        ∃ v j a, b.bareVariable? = some v ∧ h.paramIndex? id v = some j ∧
          source.arguments[j]? = some a ∧ a.freeVariables ≠ []) := by
    intro k b hcarries hb
    exact freeVariables_translateArg_ne_nil_iff hlength
      (hscoped id parent hfirst.exists_mem_rawClass?.1 raw hraw (hcarries.params_ne_nil hparams) b
        (List.mem_of_getElem? hb))
  constructor
  · rintro ⟨k, a, hcarries, ha, hfree⟩
    rw [getElem?_arguments_translate] at ha
    obtain ⟨b, hb, rfl⟩ := Option.map_eq_some_iff.1 ha
    obtain hburies | ⟨v, j, a, hbare, hplace, ha, hfree'⟩ := (hseen k b hcarries hb).1 hfree
    · exact .inl ⟨k, b, hcarries, hb, hburies⟩
    · exact .inr ⟨j, a, .step hne hfirst hraw hb hbare hplace hcarries, ha, hfree'⟩
  · rintro (⟨k, b, hcarries, hb, hburies⟩ | ⟨j, a, hcarries, ha, hfree⟩)
    · refine ⟨k, _, hcarries, ?_, (hseen k b hcarries hb).2 (.inl hburies)⟩
      rw [getElem?_arguments_translate, hb, Option.map_some]
    · obtain ⟨k, b, v, hrest, hb, hbare, hplace⟩ :=
        (carries_iff_of_firstTowards hdeclaring hne hfirst hraw).1 hcarries
      refine ⟨k, _, hrest, ?_, (hseen k b hrest hb).2 (.inr ⟨v, j, a, hbare, hplace, ha, hfree⟩)⟩
      rw [getElem?_arguments_translate, hb, Option.map_some]

/-! ### The whole chain -/

/-- An instance of the declaring class hands on its own arguments. -/
theorem handsOnVariables_declaring_iff {i : Nat} {arg : Ty} (harg : source.arguments[i]? = some arg) :
    h.HandsOnVariables declaring declaring source i ↔ arg.freeVariables ≠ [] := by
  constructor
  · rintro ⟨j, a, hcarries, ha, hfree⟩
    cases hcarries with
    | here =>
      rw [harg] at ha
      cases ha
      exact hfree
    | step hne _ _ _ _ _ _ => exact absurd rfl hne
  · exact fun hfree => ⟨i, arg, .here i, harg, hfree⟩

/-- An argument of the instance that the chain ends in has variables if one is buried on the way to
it, or if the source hands on an argument with variables. -/
theorem Arrives.freeVariables_ne_nil_iff (hdeclaring : declaring ≠ .object)
    (happlied : h.FullyApplied) (hscoped : h.Scoped) (hparams : h.params declaring ≠ [])
    (harrives : h.Arrives h.translate declaring source last) (hsource : source.rawClass? = some id)
    (hlength : h.params id ≠ [] → source.arguments.length = (h.params id).length) {i : Nat}
    {arg : Ty} (harg : last.arguments[i]? = some arg) :
    arg.freeVariables ≠ [] ↔
      h.BuriedAt declaring id i ∨ h.HandsOnVariables declaring id source i := by
  induction harrives generalizing id with
  | here hraw =>
    rw [hsource] at hraw
    cases hraw
    rw [handsOnVariables_declaring_iff harg, or_iff_right]
    rintro hburied
    cases hburied <;> contradiction
  | @step source parent last current hcurrent hne hfirst hrest ih =>
    rw [hsource] at hcurrent
    cases hcurrent
    obtain ⟨hmem, raw, hraw⟩ := hfirst.exists_mem_rawClass?
    have hraw' : (h.translate current source parent).rawClass? = some raw := by
      rw [rawClass?_translate, hraw]
    have hlength' : h.params raw ≠ [] →
        (h.translate current source parent).arguments.length = (h.params raw).length := by
      intro hgeneric
      rw [length_arguments_translate]
      exact happlied current parent hmem raw hraw hgeneric
    rw [ih hraw' hlength' harg,
      handsOnVariables_translate_iff hdeclaring hscoped hparams hne hfirst hraw hlength,
      buriedAt_iff_of_firstTowards hdeclaring hne hfirst hraw, or_assoc]

/-- A type parameter of the declaring class stands for the argument in its place. -/
theorem bindTo_eq_of_paramIndex? {args : List Ty} {arg : Ty} {v : VariableId} {i : Nat}
    (hplace : h.paramIndex? declaring v = some i) (harg : args[i]? = some arg) (bounds : List Ty) :
    h.bindTo declaring args v bounds = arg := by
  rw [bindTo, lookup_zip_params, ← paramIndex?, hplace, Option.bind_some, harg, Option.getD_some]

/-- From a source without variables, a type parameter of the declaring class stands for a type
with variables exactly if one is buried for its place. -/
theorem Arrives.bindTo_freeVariables_ne_nil_iff (hdeclaring : declaring ≠ .object)
    (happlied : h.FullyApplied) (hscoped : h.Scoped) (hne : id ≠ declaring)
    (hsource : h.IsClosedInstance id source)
    (harrives : h.Arrives h.translate declaring source last) {v : VariableId}
    (hv : v ∈ (h.params declaring).map (·.id)) :
    ∃ i arg, h.paramIndex? declaring v = some i ∧
      (∀ bounds, h.bindTo declaring last.arguments v bounds = arg) ∧
        (arg.freeVariables ≠ [] ↔ h.BuriedAt declaring id i) := by
  have hraw : source.rawClass? = some id := hsource.isInstance.rawClass?_eq
  have hparams : h.params declaring ≠ [] := by
    rintro hnil
    simp [hnil] at hv
  have hlength : last.arguments.length = (h.params declaring).length := by
    refine harrives.length_arguments happlied
      (fun hraw' => ⟨rawClass?_translate.trans hraw', length_arguments_translate⟩) ?_ hparams
    intro hdeclared
    rw [hraw] at hdeclared
    exact absurd (Option.some.inj hdeclared) hne
  obtain ⟨i, hplace, hlt⟩ := exists_paramIndex?_of_mem hv
  have hget : last.arguments[i]? = some last.arguments[i] :=
    List.getElem?_eq_getElem (hlength ▸ hlt)
  refine ⟨i, _, hplace, bindTo_eq_of_paramIndex? hplace hget, ?_⟩
  rw [harrives.freeVariables_ne_nil_iff hdeclaring happlied hscoped hparams hraw
    (fun _ => hsource.length_arguments) hget]
  refine or_iff_left ?_
  rintro ⟨j, a, -, ha, hfree⟩
  exact hfree (hsource.freeVariables_eq_nil (List.mem_of_getElem? ha))

end Hierarchy

namespace Registry

variable {r : Registry} {declaring id : ClassId} {source : Ty}

/-- What resolution leaves of the variables of a type: from a source without variables, a resolved
type has none exactly if none is buried for the type parameters that the type mentions. -/
theorem resolve_freeVariables_eq_nil_iff (hr : r.Reachable) (happlied : r.hierarchy.FullyApplied)
    (hscoped : r.hierarchy.Scoped) (hne : id ≠ declaring)
    (hinherits : r.hierarchy.Inherits id declaring)
    (hsource : r.hierarchy.IsClosedInstance id source) (ty : Ty)
    (hty : ∀ v ∈ ty.freeVariables, v ∈ (r.hierarchy.params declaring).map (·.id)) :
    ∃ resolved, r.hierarchy.resolve ty source declaring = .ok resolved ∧
      (resolved.freeVariables = [] ↔ ∀ v ∈ ty.freeVariables, ∀ i,
        r.hierarchy.paramIndex? declaring v = some i → ¬ r.hierarchy.BuriedAt declaring id i) := by
  by_cases hparams : r.hierarchy.params declaring = []
  · -- the type has no variables, so it does not matter what they stand for
    have hclosed : ∀ v, v ∉ ty.freeVariables := fun v hv => by simpa [hparams] using hty v hv
    refine ⟨ty.instantiate .textbookArray fun _ _ => .object,
      Ty.substitute_eq_ok ty fun v hv => absurd hv (hclosed v), ?_⟩
    rw [Ty.freeVariables_instantiate Ty.freeVariables_textbookArray (fun _ => []) ty fun v hv =>
      absurd hv (hclosed v), List.eq_nil_iff_forall_not_mem.2 hclosed]
    simp
  · have hdeclaring : declaring ≠ .object := by
      rintro rfl
      exact hparams hr.params_object
    obtain ⟨ranking⟩ := hr.wellFormed.exists_ranking
    obtain ⟨last, harrives, hresolve⟩ := Hierarchy.exists_arrives_resolve_eq ranking hdeclaring
      hsource.isInstance.rawClass?_eq hne hinherits
    have hbound := fun v hv => harrives.bindTo_freeVariables_ne_nil_iff hdeclaring happlied hscoped
      hne hsource (hty v hv)
    refine ⟨_, hresolve ty, ?_⟩
    rw [Ty.freeVariables_instantiate Ty.freeVariables_textbookArray
      (fun v => (r.hierarchy.bindTo declaring last.arguments v []).freeVariables) ty
      (fun v hv bounds => by
        obtain ⟨i, arg, -, harg, -⟩ := hbound v hv
        rw [harg, harg]), List.flatMap_eq_nil_iff]
    refine forall₂_congr fun v hv => ?_
    obtain ⟨i, arg, hplace, harg, hburied⟩ := hbound v hv
    rw [harg, hplace, ← not_iff_not, ← ne_eq, hburied]
    simp

/-- The calls that register a list, a box, a box of a list whose elements are left open, and one of
a list of strings. -/
def boxCalls : List RegistryCall :=
  let generic (index : Nat) (name param : String) :=
    (ClassDraft.ofKind ⟨index⟩ name .ordinary).withParam param []
  let element := Ty.var ⟨"E", .classOwner ⟨9⟩⟩ []
  [.reserve "List" .ordinary, .register (generic 7 "List" "T"),
    .reserve "Box" .ordinary, .register (generic 8 "Box" "T"),
    .reserve "Mid" .ordinary,
    .register ((generic 9 "Mid" "E").withSuperclass
      (.parameterized ⟨8⟩ [.parameterized ⟨7⟩ [element]])),
    .reserve "Leaf" .ordinary,
    .register ((ClassDraft.ofKind ⟨10⟩ "Leaf" .ordinary).withSuperclass
      (.parameterized ⟨9⟩ [.ofClass ⟨1⟩]))]

theorem boxCalls_reachable : (boxCalls.foldl after initial).Reachable :=
  Reachable.initial.foldl (by decide)

theorem boxCalls_inherits : (boxCalls.foldl after initial).hierarchy.Inherits ⟨10⟩ ⟨8⟩ := by
  have hlisted : (boxCalls.foldl after initial).hierarchy.preorder .parents ⟨10⟩ =
      [⟨10⟩, ⟨9⟩, ⟨8⟩, .object] := by cbv
  exact Hierarchy.mem_preorder_iff.1 (by simp [hlisted])

theorem boxCalls_isClosedInstance :
    (boxCalls.foldl after initial).hierarchy.IsClosedInstance ⟨10⟩ (.ofClass ⟨10⟩) :=
  .inl ⟨rfl, rfl⟩

/-- The leaf is a box of lists of strings, but resolution leaves the element type open. -/
theorem boxCalls_resolve_eq :
    let h := (boxCalls.foldl after initial).hierarchy
    h.FullyApplied ∧ h.Scoped ∧ h.Inherits ⟨10⟩ ⟨8⟩ ∧ h.IsClosedInstance ⟨10⟩ (.ofClass ⟨10⟩) ∧
      h.resolve (.var ⟨"T", .classOwner ⟨8⟩⟩ []) (.ofClass ⟨10⟩) ⟨8⟩ =
        .ok (.parameterized ⟨7⟩ [.var ⟨"E", .classOwner ⟨9⟩⟩ []]) :=
  ⟨by decide +kernel, by decide +kernel, boxCalls_inherits, boxCalls_isClosedInstance, by cbv⟩

/-- The element type is buried on the way from the leaf to the box, which is why it is left. -/
theorem boxCalls_buriedAt :
    let h := (boxCalls.foldl after initial).hierarchy
    h.BuriedAt ⟨8⟩ ⟨10⟩ 0 ∧ ∃ resolved, h.resolve (.var ⟨"T", .classOwner ⟨8⟩⟩ []) (.ofClass ⟨10⟩)
      ⟨8⟩ = .ok resolved ∧ resolved.freeVariables ≠ [] := by
  intro h
  have hleaf : h.FirstTowards ⟨8⟩ ⟨10⟩ (.parameterized ⟨9⟩ [.ofClass ⟨1⟩]) :=
    (Hierarchy.find?_leadsTo_iff (by decide)).1 (by cbv)
  have hmid : h.FirstTowards ⟨8⟩ ⟨9⟩
      (.parameterized ⟨8⟩ [.parameterized ⟨7⟩ [.var ⟨"E", .classOwner ⟨9⟩⟩ []]]) :=
    (Hierarchy.find?_leadsTo_iff (by decide)).1 (by cbv)
  have hplace : h.paramIndex? ⟨8⟩ ⟨"T", .classOwner ⟨8⟩⟩ = some 0 := by decide +kernel
  have hparam : ⟨"T", .classOwner ⟨8⟩⟩ ∈ (h.params ⟨8⟩).map (·.id) := by decide +kernel
  have hburies : (Ty.parameterized ⟨7⟩ [.var ⟨"E", .classOwner ⟨9⟩⟩ []]).BuriesVariable :=
    ⟨rfl, by simp [Ty.freeVariables, Ty.freeVariablesAll]⟩
  have hburied : h.BuriedAt ⟨8⟩ ⟨10⟩ 0 :=
    .above (by decide) hleaf rfl (.written (by decide) hmid rfl rfl hburies (.here 0))
  obtain ⟨resolved, hresolve, hiff⟩ :=
    resolve_freeVariables_eq_nil_iff boxCalls_reachable (by decide +kernel) (by decide +kernel)
      (by decide) boxCalls_inherits boxCalls_isClosedInstance (.var ⟨"T", .classOwner ⟨8⟩⟩ [])
      (by simpa [Ty.freeVariables] using hparam)
  refine ⟨hburied, resolved, hresolve, fun hnil => ?_⟩
  exact hiff.1 hnil _ (by simp [Ty.freeVariables]) 0 hplace hburied

end Registry

end Introspection
