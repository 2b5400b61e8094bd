import Introspection.Proofs.Hierarchy.Reachability
import Introspection.Proofs.Types.Instantiation

/-!
# The chain to the declaring class

From a class the way to a declaring class that it inherits from goes on to the first of its written
supertypes that leads there (`FirstTowards`).  `Arrives` follows this way from a source type, with a
parameter for the way in which each supertype is seen from the type before it, and ends in an
instance of the declaring class.

The main statement is `exists_arrives_resolve_eq`: in a table with a ranking, resolving a type is
one simultaneous substitution, which puts the arguments of the instance that the chain ends in
(`bindTo`) in the place of the type parameters.
-/

namespace Introspection.Hierarchy

variable {h : Hierarchy} {declaring id : ClassId} {source parent : Ty}

/-! ### The way -/

/-- The class behind a written supertype is the declaring class or inherits from it. -/
def Leads (h : Hierarchy) (declaring : ClassId) (parent : Ty) : Prop :=
  ∃ raw, parent.rawClass? = some raw ∧ h.Inherits raw declaring

/-- Of the written supertypes of a class, the superclass before the interfaces, this is the first
one that leads to the declaring class. -/
def FirstTowards (h : Hierarchy) (declaring id : ClassId) (parent : Ty) : Prop :=
  ∃ before after, (h.declaration id).supertypes = before ++ parent :: after ∧
    h.Leads declaring parent ∧ ∀ other ∈ before, ¬ h.Leads declaring other

/-- The chain from a source type ends in this instance of the declaring class, where `view` says how
a supertype of a class is seen from an instance of the class. -/
inductive Arrives (h : Hierarchy) (view : ClassId → Ty → Ty → Ty) (declaring : ClassId) :
    Ty → Ty → Prop where
  /-- The source is an instance of the declaring class. -/
  | here {source : Ty} (hsource : source.rawClass? = some declaring) :
      Arrives h view declaring source source
  /-- The chain goes on from the first supertype that leads to the declaring class. -/
  | step {source parent last : Ty} {id : ClassId} (hsource : source.rawClass? = some id)
      (hne : id ≠ declaring) (hfirst : h.FirstTowards declaring id parent)
      (hrest : Arrives h view declaring (view id source parent) last) :
      Arrives h view declaring source last

/-- The chain ends in an instance of the declaring class. -/
theorem Arrives.rawClass?_last {view : ClassId → Ty → Ty → Ty} {last : Ty}
    (harrives : h.Arrives view declaring source last) : last.rawClass? = some declaring := by
  induction harrives with
  | here hsource => exact hsource
  | step _ _ _ _ ih => exact ih

/-- What a variable stands for where the declaring class has these type arguments: the argument in
the place of the type parameter, and for a variable that is no type parameter its first bound. -/
def bindTo (h : Hierarchy) (declaring : ClassId) (args : List Ty) (v : VariableId)
    (bounds : List Ty) : Ty :=
  ((((h.params declaring).map (·.id)).zip args).lookup v).getD (bounds.headD .object)

/-- A supertype that leads to the declaring class has the class behind it among the parents. -/
theorem edge_of_mem_supertypes {raw : ClassId} (hmem : parent ∈ (h.declaration id).supertypes)
    (hraw : parent.rawClass? = some raw) : h.Edge .parents id raw := by
  rcases List.mem_append.1 hmem with hsuper | hinterface
  · apply edge_parents_of_edge_superclass
    rw [Option.mem_toList] at hsuper
    simp only [Edge, Edges.superclass, Declaration.rawSuperclass, Option.mem_toList]
    exact Option.bind_eq_some_iff.2 ⟨parent, hsuper, hraw⟩
  · apply edge_parents_of_edge_interfaces
    exact List.mem_filterMap.2 ⟨parent, hinterface, hraw⟩

/-- Conversely there is a written supertype behind every parent. -/
theorem exists_mem_supertypes_of_edge {raw : ClassId} (hedge : h.Edge .parents id raw) :
    ∃ parent ∈ (h.declaration id).supertypes, parent.rawClass? = some raw := by
  rcases List.mem_append.1 hedge with hsuper | hinterface
  · rw [Option.mem_toList] at hsuper
    obtain ⟨parent, hparent, hraw⟩ := Option.bind_eq_some_iff.1 hsuper
    exact ⟨parent, List.mem_append_left _ (Option.mem_toList.2 hparent), hraw⟩
  · obtain ⟨parent, hparent, hraw⟩ := List.mem_filterMap.1 hinterface
    exact ⟨parent, List.mem_append_right _ hparent, hraw⟩

/-- The first supertype towards the declaring class is a written one, of some class. -/
theorem FirstTowards.exists_mem_rawClass? (hfirst : h.FirstTowards declaring id parent) :
    parent ∈ (h.declaration id).supertypes ∧ ∃ raw, parent.rawClass? = some raw := by
  obtain ⟨before, after, hsupers, ⟨raw, hraw, -⟩, -⟩ := hfirst
  exact ⟨by simp [hsupers], raw, hraw⟩

/-- The first supertype towards the declaring class is a step down in every ranking. -/
theorem FirstTowards.edge {raw : ClassId} (hfirst : h.FirstTowards declaring id parent)
    (hraw : parent.rawClass? = some raw) : h.Edge .parents id raw :=
  edge_of_mem_supertypes hfirst.exists_mem_rawClass?.1 hraw

/-- The test of the resolver for supertypes that lead to the declaring class. -/
theorem leadsTo_iff (hdeclaring : declaring ≠ .object) :
    h.leadsTo declaring parent = true ↔ h.Leads declaring parent := by
  unfold leadsTo Leads
  cases parent.rawClass? with
  | none => simp
  | some raw => simp [isSubclass_iff, hdeclaring]

/-- The search of the resolver finds the first supertype towards the declaring class. -/
theorem find?_leadsTo_iff (hdeclaring : declaring ≠ .object) :
    (h.declaration id).supertypes.find? (h.leadsTo declaring) = some parent ↔
      h.FirstTowards declaring id parent := by
  rw [List.find?_eq_some_iff_append, FirstTowards, leadsTo_iff hdeclaring]
  constructor
  · rintro ⟨hleads, before, after, hsupers, hbefore⟩
    refine ⟨before, after, hsupers, hleads, fun other hother hleads' => ?_⟩
    have := hbefore other hother
    rw [(leadsTo_iff hdeclaring).2 hleads'] at this
    simp at this
  · rintro ⟨before, after, hsupers, hleads, hbefore⟩
    refine ⟨hleads, before, after, hsupers, fun other hother => ?_⟩
    rw [Bool.not_eq_true', ← Bool.not_eq_true, leadsTo_iff hdeclaring]
    exact hbefore other hother

/-- A class that inherits from another one has a first supertype towards it. -/
theorem exists_firstTowards (hdeclaring : declaring ≠ .object) (hne : id ≠ declaring)
    (hinherits : h.Inherits id declaring) : ∃ parent, h.FirstTowards declaring id parent := by
  obtain heq | ⟨raw, hedge, hrest⟩ := Relation.ReflTransGen.cases_head hinherits
  · exact absurd heq hne
  · obtain ⟨parent, hmem, hraw⟩ := exists_mem_supertypes_of_edge hedge
    have hsome : ((h.declaration id).supertypes.find? (h.leadsTo declaring)).isSome := by
      rw [List.find?_isSome]
      exact ⟨parent, hmem, (leadsTo_iff hdeclaring).2 ⟨raw, hraw, hrest⟩⟩
    obtain ⟨first, hfirst⟩ := Option.isSome_iff_exists.1 hsome
    exact ⟨first, (find?_leadsTo_iff hdeclaring).1 hfirst⟩

/-- There is only one first supertype towards a declaring class. -/
theorem FirstTowards.unique {parent' : Ty} (hdeclaring : declaring ≠ .object)
    (hfirst : h.FirstTowards declaring id parent) (hfirst' : h.FirstTowards declaring id parent') :
    parent' = parent := by
  rw [← find?_leadsTo_iff hdeclaring] at hfirst hfirst'
  rw [hfirst] at hfirst'
  exact (Option.some.inj hfirst').symm

/-! ### The resolver follows it -/

/-- Seeing a supertype from a source keeps its class. -/
theorem rawClass?_translate : (h.translate id source parent).rawClass? = parent.rawClass? := by
  unfold translate
  split <;> rfl

theorem lookup_zip_params (v : VariableId) (params : List TypeVariable) (args : List Ty) :
    ((params.map (·.id)).zip args).lookup v =
      (params.findIdx? (·.id == v)).bind (args[·]?) := by
  induction params generalizing args with
  | nil => simp
  | cons p params ih =>
    cases args with
    | nil => cases (p :: params).findIdx? (·.id == v) <;> simp
    | cons arg args =>
      by_cases heq : p.id = v
      · simp [heq, List.findIdx?_cons]
      · have hne : ¬ v = p.id := fun e => heq e.symm
        simp only [List.map_cons, List.zip_cons_cons, List.lookup_cons, List.findIdx?_cons,
          beq_iff_eq, heq, beq_eq_false_iff_ne.2 hne, if_false, ih]
        cases params.findIdx? (·.id == v) <;> simp

/-- The argument that the resolver takes from an instance of the declaring class. -/
theorem boundArg?_of_rawClass?_eq (v : VariableId) (hraw : parent.rawClass? = some declaring) :
    h.boundArg? declaring v parent =
      (((h.params declaring).map (·.id)).zip parent.arguments).lookup v := by
  rw [lookup_zip_params]
  cases parent with
  | parameterized raw args =>
    obtain rfl : raw = declaring := Option.some.inj hraw
    simp [boundArg?, Ty.arguments, paramIndex?]
  | _ => simp [boundArg?, Ty.arguments]

/-- The resolver takes no argument from an instance of another class. -/
theorem boundArg?_of_rawClass?_ne (v : VariableId) (hraw : parent.rawClass? ≠ some declaring) :
    h.boundArg? declaring v parent = none := by
  cases parent with
  | parameterized raw args =>
    have hne : raw ≠ declaring := fun e => hraw (by rw [Ty.rawClass?, e])
    simp [boundArg?, hne]
  | _ => rfl

/-- What the resolver finds for a variable on its way from a class other than the declaring one, if
it may take more steps than the rank of the class: what the end of the chain binds it to. -/
theorem exists_arrives_imageWithin_eq (ranking : h.Ranking) (hdeclaring : declaring ≠ .object)
    (fuel : Nat) (hsource : source.rawClass? = some id) (hne : id ≠ declaring)
    (hinherits : h.Inherits id declaring) (hfuel : ranking.rank id < fuel) :
    ∃ last, h.Arrives h.translate declaring source last ∧
      ∀ v bounds, h.imageWithin declaring v bounds fuel source =
        some (h.bindTo declaring last.arguments v bounds) := by
  induction fuel generalizing source id with
  | zero => omega
  | succ fuel ih =>
    obtain ⟨parent, hfirst⟩ := exists_firstTowards hdeclaring hne hinherits
    have hstep : h.stepTowards? declaring id source = some (h.translate id source parent) := by
      rw [stepTowards?, (find?_leadsTo_iff hdeclaring).2 hfirst, Option.map_some]
    obtain ⟨raw, hraw, hrest⟩ : h.Leads declaring parent := by
      obtain ⟨-, -, -, hleads, -⟩ := hfirst
      exact hleads
    have hraw' : (h.translate id source parent).rawClass? = some raw := by
      rw [rawClass?_translate, hraw]
    have hlt : ranking.rank raw < fuel := by
      have := ranking.lt_of_edge (hfirst.edge hraw)
      omega
    by_cases hlast : raw = declaring
    · subst hlast
      refine ⟨_, .step hsource hne hfirst (.here hraw'), fun v bounds => ?_⟩
      obtain ⟨fuel, rfl⟩ : ∃ n, fuel = n + 1 := ⟨fuel - 1, by omega⟩
      rw [imageWithin, hsource]
      simp only [hne, if_false, hstep, boundArg?_of_rawClass?_eq v hraw', bindTo]
      cases (((h.params raw).map (·.id)).zip (h.translate id source parent).arguments).lookup v with
      | some arg => rfl
      | none => simp [imageWithin, hraw']
    · obtain ⟨last, harrives, himage⟩ := ih hraw' hlast hrest hlt
      refine ⟨last, .step hsource hne hfirst harrives, fun v bounds => ?_⟩
      have hnone := boundArg?_of_rawClass?_ne (h := h) v
        (show (h.translate id source parent).rawClass? ≠ some declaring by
          rw [hraw']
          exact fun e => hlast (Option.some.inj e))
      rw [imageWithin, hsource]
      simp only [hne, if_false, hstep, hnone, himage]

/-- Resolving a type is one simultaneous substitution, by the arguments of the instance of the
declaring class that the chain from the source ends in. -/
theorem exists_arrives_resolve_eq (ranking : h.Ranking) (hdeclaring : declaring ≠ .object)
    (hsource : source.rawClass? = some id) (hne : id ≠ declaring)
    (hinherits : h.Inherits id declaring) :
    ∃ last, h.Arrives h.translate declaring source last ∧
      ∀ ty : Ty, h.resolve ty source declaring =
        .ok (ty.instantiate .textbookArray (h.bindTo declaring last.arguments)) := by
  have hrank : ranking.rank id < h.declarations.length + 1 := by
    obtain heq | ⟨raw, hedge, -⟩ := Relation.ReflTransGen.cases_head hinherits
    · exact absurd heq hne
    · have := ranking.lt_length hedge
      omega
  obtain ⟨last, harrives, himage⟩ :=
    exists_arrives_imageWithin_eq ranking hdeclaring _ hsource hne hinherits hrank
  refine ⟨last, harrives, fun ty => Ty.substitute_eq_ok ty fun v _ bounds => ?_⟩
  simp [image, hsource, himage]

end Introspection.Hierarchy
