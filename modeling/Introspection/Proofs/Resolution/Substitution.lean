import Introspection.Proofs.Registry.WellFormed
import Introspection.Proofs.Resolution.Chain
import Mathlib.Data.List.Basic

/-!
# Resolution as simultaneous substitution

`Hierarchy.seenFrom` is the textbook view of a supertype: the type arguments of the source are
substituted for the type parameters of its class, at any depth and all at once.  The resolver looks
at the top of each argument alone, so its view is the textbook one where the arguments of written
supertypes are `Hierarchy.Flat`: each of them a type parameter, or free of variables.

Without that the two views may differ even on flat arguments, in the arguments of a class without
type parameters.  Nothing is ever bound to those (`Hierarchy.AgreeOnParams`), and the views of two
sources that agree on type parameters agree again.  `resolve_eq_instantiate` is the main statement.
-/

namespace Introspection

namespace Hierarchy

variable {h : Hierarchy} {declaring id raw : ClassId} {source source' parent : Ty}

/-- A supertype of a class as an instance of the class sees it: the type arguments of the instance
in the place of the type parameters.  Other variables stand for themselves, and so do all variables
where the instance has no type arguments. -/
def seenFrom (h : Hierarchy) (id : ClassId) (source parent : Ty) : Ty :=
  parent.instantiate .genericArray fun v bounds =>
    (((h.params id).map (·.id)).zip source.arguments |>.lookup v).getD (.var v bounds)

/-- Every written supertype of a generic class has one argument for each type parameter. -/
def FullyApplied (h : Hierarchy) : Prop :=
  ∀ id, ∀ parent ∈ (h.declaration id).supertypes, ∀ raw ∈ parent.rawClass?,
    h.params raw ≠ [] → parent.arguments.length = (h.params raw).length

/-- The arguments of every written supertype of a generic class are type parameters of the class
that is declared, or have no variables. -/
def Flat (h : Hierarchy) : Prop :=
  ∀ id, ∀ parent ∈ (h.declaration id).supertypes, ∀ raw ∈ parent.rawClass?,
    h.params raw ≠ [] → ∀ arg ∈ parent.arguments,
      (∃ v ∈ arg.bareVariable?, v ∈ (h.params id).map (·.id)) ∨ arg.freeVariables = []

/-- What holds of all written supertypes can be tested place by place. -/
instance decidableForallSupertypes {P : ClassId → Ty → Prop}
    [∀ id parent, Decidable (P id parent)] :
    Decidable (∀ id, ∀ parent ∈ (h.declaration id).supertypes, P id parent) :=
  decidable_of_iff
    (∀ i < h.declarations.length, ∀ parent ∈ (h.declaration ⟨i⟩).supertypes, P ⟨i⟩ parent) <| by
    constructor
    · intro hplaces id parent hparent
      by_cases hlt : id.index < h.declarations.length
      · exact hplaces id.index hlt parent hparent
      · rw [declaration, List.getElem?_eq_none (Nat.le_of_not_lt hlt)] at hparent
        simp [Declaration.supertypes, Declaration.vacant] at hparent
    · exact fun hall i _ => hall ⟨i⟩

instance : Decidable h.FullyApplied :=
  inferInstanceAs (Decidable (∀ id, ∀ parent ∈ (h.declaration id).supertypes, _))

instance : Decidable h.Flat :=
  inferInstanceAs (Decidable (∀ id, ∀ parent ∈ (h.declaration id).supertypes, _))

/-- An instance of a class with its type arguments, one for each type parameter, or the class
alone. -/
def IsInstance (h : Hierarchy) (id : ClassId) (source : Ty) : Prop :=
  source = .ofClass id ∨
    ∃ args, args.length = (h.params id).length ∧ source = .parameterized id args

theorem IsInstance.rawClass?_eq (hsource : h.IsInstance id source) :
    source.rawClass? = some id := by
  obtain rfl | ⟨args, -, rfl⟩ := hsource <;> rfl

/-- A supertype of a generic class with all its arguments is a parameterized type. -/
theorem FullyApplied.exists_eq_parameterized (happlied : h.FullyApplied)
    (hparent : parent ∈ (h.declaration id).supertypes) (hraw : parent.rawClass? = some raw)
    (hparams : h.params raw ≠ []) : ∃ args, parent = .parameterized raw args := by
  have hlength := happlied id parent hparent raw hraw hparams
  cases parent with
  | parameterized raw' args =>
    obtain rfl : raw' = raw := Option.some.inj hraw
    exact ⟨args, rfl⟩
  | _ => exact absurd (List.length_eq_zero_iff.1 hlength.symm) hparams

/-! ### Two views of a supertype -/

/-- Two sources have the same class, and the same arguments if the class has type parameters. -/
def AgreeOnParams (h : Hierarchy) (source source' : Ty) : Prop :=
  source'.rawClass? = source.rawClass? ∧
    (source' = source ∨ ∀ id, source.rawClass? = some id → h.params id = [])

/-- Sources that agree on type parameters bind them alike. -/
theorem AgreeOnParams.zip_eq (hagree : h.AgreeOnParams source source')
    (hsource : source.rawClass? = some id) :
    ((h.params id).map (·.id)).zip source'.arguments =
      ((h.params id).map (·.id)).zip source.arguments := by
  obtain ⟨-, rfl | hparams⟩ := hagree
  · rfl
  · simp [hparams id hsource]

/-- The view of the resolver, one argument at a time. -/
theorem translate_parameterized (args : List Ty) :
    h.translate id source (.parameterized raw args) =
      .parameterized raw (args.map (h.translateArg id source.arguments)) := by
  have hself : args.map (h.translateArg id []) = args := by
    rw [List.map_congr_left fun arg _ => ?_, List.map_id']
    cases arg <;> simp [translateArg]
  cases source with
  | parameterized raw' sourceArgs => rfl
  | _ => simp only [translate, Ty.arguments, hself]

/-- A type parameter is replaced alike in both views. -/
theorem translateArg_var (sourceArgs : List Ty) (v : VariableId) (bounds : List Ty) :
    h.translateArg id sourceArgs (.var v bounds) =
      (((h.params id).map (·.id)).zip sourceArgs |>.lookup v).getD (.var v bounds) := by
  rw [translateArg, lookup_zip_params, paramIndex?]

/-- A type without variables is not changed by the view of the resolver. -/
theorem translateArg_of_freeVariables_eq_nil {sourceArgs : List Ty} {arg : Ty}
    (hclosed : arg.freeVariables = []) : h.translateArg id sourceArgs arg = arg := by
  cases arg with
  | var v bounds => simp [Ty.freeVariables] at hclosed
  | _ => rfl

/-- The textbook view keeps the class of a supertype. -/
theorem rawClass?_seenFrom (hraw : parent.rawClass? = some raw) :
    (h.seenFrom id source parent).rawClass? = some raw := by
  cases parent with
  | plain ref => exact hraw
  | parameterized raw' args => exact hraw
  | _ => simp [Ty.rawClass?] at hraw

/-- The textbook view keeps the number of arguments. -/
theorem length_arguments_seenFrom (hraw : parent.rawClass? = some raw) :
    (h.seenFrom id source parent).arguments.length = parent.arguments.length := by
  cases parent with
  | plain ref => rfl
  | parameterized raw' args =>
    simp [seenFrom, Ty.instantiate, Ty.instantiateAll_eq_map, Ty.arguments]
  | _ => simp [Ty.rawClass?] at hraw

/-- An argument of a supertype in place `k`, in the view of the resolver. -/
theorem getElem?_arguments_translate (k : Nat) :
    (h.translate id source parent).arguments[k]? =
      (parent.arguments[k]?).map (h.translateArg id source.arguments) := by
  cases parent with
  | parameterized raw' args => simp [translate_parameterized, Ty.arguments]
  | _ => simp [translate, Ty.arguments]

/-- The view of the resolver keeps the number of arguments. -/
theorem length_arguments_translate :
    (h.translate id source parent).arguments.length = parent.arguments.length := by
  cases parent with
  | parameterized raw' args => simp [translate_parameterized, Ty.arguments]
  | _ => simp [translate, Ty.arguments]

/-- From sources that agree on type parameters the resolver and the textbook see a flat supertype
as types that agree again. -/
theorem agreeOnParams_view (happlied : h.FullyApplied) (hflat : h.Flat)
    (hagree : h.AgreeOnParams source source') (hsource : source.rawClass? = some id)
    (hparent : parent ∈ (h.declaration id).supertypes) (hraw : parent.rawClass? = some raw) :
    h.AgreeOnParams (h.translate id source parent) (h.seenFrom id source' parent) := by
  have hraw' : (h.translate id source parent).rawClass? = some raw := by
    rw [rawClass?_translate, hraw]
  refine ⟨by rw [rawClass?_seenFrom hraw, hraw'], ?_⟩
  by_cases hparams : h.params raw = []
  · refine .inr fun other hother => ?_
    rw [hraw'] at hother
    rwa [← Option.some.inj hother]
  · left
    obtain ⟨args, rfl⟩ := happlied.exists_eq_parameterized hparent hraw hparams
    simp only [seenFrom, hagree.zip_eq hsource, translate_parameterized, Ty.instantiate,
      Ty.instantiateAll_eq_map]
    congr 1
    apply List.map_congr_left
    intro arg harg
    obtain ⟨v, hv, -⟩ | hclosed := hflat id _ hparent raw hraw hparams arg harg
    · obtain ⟨bounds, rfl⟩ := Ty.exists_eq_var_of_bareVariable?_eq_some hv
      rw [translateArg_var, Ty.instantiate]
    · rw [translateArg_of_freeVariables_eq_nil hclosed,
        Ty.instantiate_genericArray_eq_self _ (by simp [hclosed])]

/-! ### The chain in both views -/

/-- The textbook follows the resolver to an instance that agrees with its own. -/
theorem Arrives.exists_seenFrom {last : Ty} (happlied : h.FullyApplied) (hflat : h.Flat)
    (harrives : h.Arrives h.translate declaring source last)
    (hagree : h.AgreeOnParams source source') :
    ∃ last', h.Arrives h.seenFrom declaring source' last' ∧ h.AgreeOnParams last last' := by
  induction harrives generalizing source' with
  | here hsource => exact ⟨source', .here (hagree.1.trans hsource), hagree⟩
  | step hsource hne hfirst hrest ih =>
    obtain ⟨hmem, raw, hraw⟩ := hfirst.exists_mem_rawClass?
    obtain ⟨last', harrives', hagree'⟩ :=
      ih (agreeOnParams_view happlied hflat hagree hsource hmem hraw)
    exact ⟨last', .step (hagree.1.trans hsource) hne hfirst harrives', hagree'⟩

/-- The chain from a source ends in one instance alone. -/
theorem Arrives.unique {view : ClassId → Ty → Ty → Ty} {last last' : Ty}
    (hdeclaring : declaring ≠ .object) (harrives : h.Arrives view declaring source last)
    (harrives' : h.Arrives view declaring source last') : last' = last := by
  induction harrives generalizing last' with
  | here hsource =>
    cases harrives' with
    | here _ => rfl
    | step hsource' hne _ _ =>
      rw [hsource] at hsource'
      exact absurd (Option.some.inj hsource').symm hne
  | step hsource hne hfirst hrest ih =>
    cases harrives' with
    | here hsource' =>
      rw [hsource] at hsource'
      exact absurd (Option.some.inj hsource') hne
    | step hsource' hne' hfirst' hrest' =>
      rw [hsource] at hsource'
      cases hsource'
      cases hfirst.unique hdeclaring hfirst'
      exact ih hrest'

/-- Where supertypes keep their class and the number of their arguments, the chain from a source of
another class ends in an instance with all its arguments. -/
theorem Arrives.length_arguments {view : ClassId → Ty → Ty → Ty} {last : Ty}
    (happlied : h.FullyApplied)
    (hview : ∀ {id source parent raw}, parent.rawClass? = some raw →
      (view id source parent).rawClass? = some raw ∧
        (view id source parent).arguments.length = parent.arguments.length)
    (harrives : h.Arrives view declaring source last)
    (hsource : source.rawClass? = some declaring → h.params declaring ≠ [] →
      source.arguments.length = (h.params declaring).length)
    (hparams : h.params declaring ≠ []) :
    last.arguments.length = (h.params declaring).length := by
  induction harrives with
  | here hraw => exact hsource hraw hparams
  | @step source parent last current hcurrent hne hfirst hrest ih =>
    obtain ⟨hmem, raw, hraw⟩ := hfirst.exists_mem_rawClass?
    obtain ⟨hviewed, hlength⟩ := hview hraw
    refine ih fun hdeclaring _ => ?_
    rw [hviewed] at hdeclaring
    cases hdeclaring
    rw [hlength]
    exact happlied current parent hmem declaring hraw hparams

end Hierarchy

namespace Registry

variable {r : Registry} {declaring id : ClassId} {source : Ty}

/-- Where arguments of supertypes are flat, resolution agrees with textbook substitution: the chain
from the source ends in exactly one instance of the declaring class, which has all its arguments,
and the resolved type has these arguments in the place of the type parameters, all at once. -/
theorem resolve_eq_instantiate (hr : r.Reachable) (happlied : r.hierarchy.FullyApplied)
    (hflat : r.hierarchy.Flat) (hdeclaring : declaring ≠ .object) (hne : id ≠ declaring)
    (hinherits : r.hierarchy.Inherits id declaring) (hsource : r.hierarchy.IsInstance id source) :
    ∃ last, (∀ other, r.hierarchy.Arrives r.hierarchy.seenFrom declaring source other ↔
        other = last) ∧
      (r.hierarchy.params declaring ≠ [] →
        last.arguments.length = (r.hierarchy.params declaring).length) ∧
      ∀ ty : Ty, r.hierarchy.resolve ty source declaring =
        .ok (ty.instantiate .textbookArray (r.hierarchy.bindTo declaring last.arguments)) := by
  obtain ⟨ranking⟩ := hr.wellFormed.exists_ranking
  have hraw : source.rawClass? = some id := hsource.rawClass?_eq
  obtain ⟨last, harrives, hresolve⟩ :=
    Hierarchy.exists_arrives_resolve_eq ranking hdeclaring hraw hne hinherits
  obtain ⟨last', harrives', hagree⟩ := harrives.exists_seenFrom happlied hflat ⟨rfl, .inl rfl⟩
  refine ⟨last', fun other => ⟨?_, ?_⟩, ?_, ?_⟩
  · exact fun hother => harrives'.unique hdeclaring hother
  · rintro rfl
    exact harrives'
  · refine harrives'.length_arguments happlied (fun hraw' => ⟨Hierarchy.rawClass?_seenFrom hraw',
      Hierarchy.length_arguments_seenFrom hraw'⟩) fun hdeclared => ?_
    rw [hraw] at hdeclared
    exact absurd (Option.some.inj hdeclared) hne
  · intro ty
    rw [hresolve ty]
    have hbind : r.hierarchy.bindTo declaring last'.arguments =
        r.hierarchy.bindTo declaring last.arguments := by
      funext v bounds
      rw [Hierarchy.bindTo, Hierarchy.bindTo, hagree.zip_eq harrives.rawClass?_last]
    rw [hbind]

/-- The calls that register a pair of two types, and below it a pair with the types swapped. -/
def swapCalls : List RegistryCall :=
  let pair := ((ClassDraft.ofKind ⟨7⟩ "Pair" .ordinary).withParam "A" []).withParam "B" []
  let swap := ((ClassDraft.ofKind ⟨8⟩ "Swap" .ordinary).withParam "X" []).withParam "Y" []
  let param (name : String) : Ty := .var ⟨name, .classOwner ⟨8⟩⟩ []
  [.reserve "Pair" .ordinary, .register pair, .reserve "Swap" .ordinary,
    .register (swap.withSuperclass (.parameterized ⟨7⟩ [param "Y", param "X"]))]

/-- The hierarchy with the two pairs is flat, and there a swapped pair of a string and an integer is
a pair of an integer and a string.  An array of its first type is the plain array of integers, and
an array of pairs of its types is generic as before. -/
theorem swapCalls_resolve_eq_instantiate :
    let r := swapCalls.foldl after initial
    let source := Ty.parameterized ⟨8⟩ [.ofClass ⟨1⟩, .ofClass ⟨3⟩]
    let param (name : String) : Ty := .var ⟨name, .classOwner ⟨7⟩⟩ []
    r.hierarchy.FullyApplied ∧ r.hierarchy.Flat ∧
      ∃ last, r.hierarchy.Arrives r.hierarchy.seenFrom ⟨7⟩ source last ∧
        last.arguments.length = 2 ∧
        (∀ ty : Ty, r.hierarchy.resolve ty source ⟨7⟩ =
          .ok (ty.instantiate .textbookArray (r.hierarchy.bindTo ⟨7⟩ last.arguments))) ∧
        r.hierarchy.resolve (.genericArray (param "A")) source ⟨7⟩ =
          .ok (.plain (.array (.declared ⟨3⟩))) ∧
        r.hierarchy.resolve (.genericArray (.parameterized ⟨7⟩ [param "B", param "A"])) source
            ⟨7⟩ =
          .ok (.genericArray (.parameterized ⟨7⟩ [.ofClass ⟨1⟩, .ofClass ⟨3⟩])) := by
  intro r source param
  have hreachable : r.Reachable := Reachable.initial.foldl (by decide)
  have happlied : r.hierarchy.FullyApplied := by decide +kernel
  have hflat : r.hierarchy.Flat := by decide +kernel
  have hinherits : r.hierarchy.Inherits ⟨8⟩ ⟨7⟩ :=
    .single (show (⟨7⟩ : ClassId) ∈ (r.hierarchy.declaration ⟨8⟩).parents by decide +kernel)
  have hparams : (r.hierarchy.params ⟨7⟩).length = 2 := by decide +kernel
  have hsource : r.hierarchy.IsInstance ⟨8⟩ source := .inr ⟨_, by decide +kernel, rfl⟩
  obtain ⟨last, hlast, hlength, hresolve⟩ :=
    resolve_eq_instantiate hreachable happlied hflat (by decide) (by decide) hinherits hsource
  refine ⟨happlied, hflat, last, (hlast last).2 rfl, ?_, hresolve, rfl, rfl⟩
  rw [hlength (List.ne_nil_of_length_eq_add_one hparams), hparams]

end Registry

end Introspection
