import Introspection.Proofs.Resolution.Chain

/-!
# The resolver comes to an end

The resolver climbs from a class to a supertype again and again, and what stops it after a number of
steps is a bound (`Hierarchy.imageWithin`).  In a table with a ranking the bound is never met: every
step leads to a class of lower rank, so whatever the variable, the declaring class and the source
are, there is an answer, and it is the same for every bound that is large enough
(`Ranking.exists_imageWithin_eq`).  The answer of the resolver is this one
(`Ranking.exists_image_eq`).

Here the source need not lead to the declaring class, and neither has to be in the table.
-/

namespace Introspection.Hierarchy

variable {h : Hierarchy} {declaring id : ClassId} {source parent : Ty}

/-- Every step of the resolver goes along an edge of the table. -/
theorem exists_edge_of_stepTowards? (hstep : h.stepTowards? declaring id source = some parent) :
    ∃ raw, parent.rawClass? = some raw ∧ h.Edge .parents id raw := by
  obtain ⟨written, hfind, rfl⟩ := Option.map_eq_some_iff.1 hstep
  have hmem : written ∈ (h.declaration id).supertypes := List.mem_of_find?_eq_some hfind
  have hleads : h.leadsTo declaring written = true := List.find?_some hfind
  unfold leadsTo at hleads
  split at hleads
  · next raw hraw =>
    have hedge : h.Edge .parents id raw := edge_of_mem_supertypes hmem hraw
    exact ⟨raw, by rw [rawClass?_translate, hraw], hedge⟩
  · cases hleads

/-- Every bound gives the same answer, if it is above the rank of a class with supertypes. -/
theorem Ranking.exists_imageWithin_eq (ranking : h.Ranking) (declaring : ClassId) (v : VariableId)
    (bounds : List Ty) (hsource : source.rawClass? = some id) :
    ∃ ty, ∀ fuel, (∀ raw, h.Edge .parents id raw → ranking.rank id ≤ fuel) →
      h.imageWithin declaring v bounds (fuel + 1) source = some ty := by
  induction hn : ranking.rank id using Nat.strongRecOn generalizing id source with
  | ind n ih =>
    subst hn
    by_cases hdeclaring : id = declaring
    · exact ⟨bounds.headD .object, fun fuel _ => by simp [imageWithin, hsource, hdeclaring]⟩
    cases hstep : h.stepTowards? declaring id source with
    | none => exact ⟨.object, fun fuel _ => by simp [imageWithin, hsource, hdeclaring, hstep]⟩
    | some parent =>
      cases hbound : h.boundArg? declaring v parent with
      | some arg =>
        exact ⟨arg, fun fuel _ => by simp [imageWithin, hsource, hdeclaring, hstep, hbound]⟩
      | none =>
        obtain ⟨raw, hraw, hedge⟩ := exists_edge_of_stepTowards? hstep
        have hlower : ranking.rank raw < ranking.rank id := ranking.lt_of_edge hedge
        -- the answer from the supertype is there before any bound is given
        obtain ⟨ty, hty⟩ := ih _ hlower hraw rfl
        refine ⟨ty, fun fuel hfuel => ?_⟩
        have hrank : ranking.rank id ≤ fuel := hfuel raw hedge
        cases fuel with
        | zero => omega
        | succ fuel =>
          have hrest : h.imageWithin declaring v bounds (fuel + 1) parent = some ty :=
            hty fuel fun _ _ => by omega
          rw [imageWithin, hsource]
          simp only [hdeclaring, if_false, hstep, hbound, hrest]

/-- The resolver has an answer, and every bound above the size of the table gives it. -/
theorem Ranking.exists_image_eq (ranking : h.Ranking) (declaring : ClassId) (v : VariableId)
    (bounds : List Ty) (hsource : source.rawClass? = some id) :
    ∃ ty, h.image source declaring v bounds = .ok ty ∧
      ∀ fuel, h.declarations.length < fuel →
        h.imageWithin declaring v bounds fuel source = some ty := by
  obtain ⟨ty, hty⟩ := ranking.exists_imageWithin_eq declaring v bounds hsource
  have henough : ∀ fuel, h.declarations.length < fuel →
      h.imageWithin declaring v bounds fuel source = some ty := by
    intro fuel hfuel
    obtain ⟨fuel, rfl⟩ : ∃ n, fuel = n + 1 := ⟨fuel - 1, by omega⟩
    refine hty fuel fun raw hedge => ?_
    have hrank : ranking.rank id < h.declarations.length := ranking.lt_length hedge
    omega
  refine ⟨ty, ?_, henough⟩
  simp [image, hsource, henough _ (Nat.lt_succ_self _)]

end Introspection.Hierarchy
