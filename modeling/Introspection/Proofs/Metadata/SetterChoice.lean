import Introspection.Proofs.Metadata.GetterChoice

/-!
# The choice among setters

What comes out of choosing among the setters of a property (`Hierarchy.ChoosesSetter`).

A setter that takes exactly the wanted class ends the choice at once, whatever came before it
(`getLast?_recordedSetters_of_find?`).  Without one the best setter so far is compared with the next
one, until two do not compare.  Then no beginning of the list that contains both has a setter that
takes the narrowest class, so what comes out is the last of the narrowest setters if every beginning
has one, and an ambiguity otherwise (`Grounded.exists_foldl_narrower`).

Both ways are put together in `Grounded.exists_getLast?_recordedSetters`.
-/

namespace Introspection

namespace Hierarchy

variable {h : Hierarchy} {property : String} {wanted : Option ClassRef} {k m s t : Method}
  {setters : List Method} {choice : Option SetterChoice}

/-! ### The narrowest setters -/

/-- The setters among some that take a class which can be assigned to those of all of them. -/
def narrowestSetters (h : Hierarchy) (setters : List Method) : List Method :=
  setters.filter fun s => setters.all fun t => h.isAssignable t.firstParamClass s.firstParamClass

theorem mem_narrowestSetters_iff :
    k ∈ h.narrowestSetters setters ↔
      k ∈ setters ∧ ∀ t ∈ setters, h.isAssignable t.firstParamClass k.firstParamClass = true := by
  simp [narrowestSetters]

/-- A setter is among the narrowest ones after a further one has come if it was before, and the
class of the further one is no narrower; the further one is if its class is the narrowest. -/
theorem narrowestSetters_append_singleton (h : Hierarchy) (setters : List Method) (s : Method) :
    h.narrowestSetters (setters ++ [s]) =
      (h.narrowestSetters setters).filter
          (fun t => h.isAssignable s.firstParamClass t.firstParamClass) ++
        if ∀ t ∈ setters, h.isAssignable t.firstParamClass s.firstParamClass = true then [s]
        else [] := by
  unfold narrowestSetters
  rw [List.filter_append, List.filter_filter]
  congr 1
  · refine List.filter_congr fun t _ => ?_
    rw [List.all_append, List.all_cons, List.all_nil, Bool.and_true, Bool.and_comm]
  · simp [List.filter_cons, List.all_append, isAssignable_refl]

/-- The choice settles on a setter: this is the last of the narrowest ones, and there are narrowest
ones in every beginning of the list. -/
structure SettlesOn (h : Hierarchy) (setters : List Method) (k : Method) : Prop where
  /-- The setter is the last of the narrowest ones. -/
  last : (h.narrowestSetters setters).getLast? = some k
  /-- Every beginning of the list has setters whose class is the narrowest. -/
  beginnings : ∀ beginning, beginning <+: setters → beginning ≠ [] →
    h.narrowestSetters beginning ≠ []

/-- The setter that the choice settles on takes the narrowest class. -/
theorem SettlesOn.narrowest (hk : h.SettlesOn setters k) :
    k ∈ setters ∧ ∀ t ∈ setters, h.isAssignable t.firstParamClass k.firstParamClass = true :=
  mem_narrowestSetters_iff.1 (List.mem_of_getLast? hk.last)

theorem settlesOn_singleton (h : Hierarchy) (s : Method) : h.SettlesOn [s] s where
  last := by simp [narrowestSetters, isAssignable_refl]
  beginnings beginning hprefix hne := by
    obtain ⟨front, rfl, hfront⟩ : ∃ front, beginning = s :: front ∧ front <+: [] :=
      (List.prefix_cons_iff.1 hprefix).resolve_left hne
    obtain rfl : front = [] := List.prefix_nil.1 hfront
    simp [narrowestSetters, isAssignable_refl]

/-- One more setter leaves the beginnings as they were and adds the whole list. -/
theorem SettlesOn.append_singleton (hk : h.SettlesOn setters k)
    (hlast : (h.narrowestSetters (setters ++ [s])).getLast? = some m) :
    h.SettlesOn (setters ++ [s]) m where
  last := hlast
  beginnings beginning hprefix hne := by
    rcases List.prefix_concat_iff.1 hprefix with rfl | hprefix
    · exact List.ne_nil_of_mem (List.mem_of_getLast? hlast)
    · exact hk.beginnings beginning hprefix hne

/-! ### Comparing one setter after the other -/

/-- After a further setter the choice settles on it if its class is no wider than the best one. -/
theorem SettlesOn.moves (hh : h.Grounded) (hk : h.SettlesOn setters k)
    (hwider : h.isAssignable k.firstParamClass s.firstParamClass = true) :
    h.SettlesOn (setters ++ [s]) s := by
  have hall : ∀ t ∈ setters, h.isAssignable t.firstParamClass s.firstParamClass = true :=
    fun t ht => hh.isAssignable_trans (hk.narrowest.2 t ht) hwider
  refine hk.append_singleton ?_
  rw [narrowestSetters_append_singleton, if_pos hall, List.getLast?_concat]

/-- After a further setter of a wider class the choice settles on the same one. -/
theorem SettlesOn.stays (hh : h.Grounded) (hk : h.SettlesOn setters k)
    (hwider : h.isAssignable k.firstParamClass s.firstParamClass = false)
    (hnarrower : h.isAssignable s.firstParamClass k.firstParamClass = true) :
    h.SettlesOn (setters ++ [s]) k := by
  have hnot : ¬ ∀ t ∈ setters, h.isAssignable t.firstParamClass s.firstParamClass = true :=
    fun hall => Bool.false_ne_true (hwider.symm.trans (hall k hk.narrowest.1))
  have hkeep : ∀ t ∈ h.narrowestSetters setters,
      h.isAssignable s.firstParamClass t.firstParamClass = true := fun t ht =>
    hh.isAssignable_trans hnarrower ((mem_narrowestSetters_iff.1 ht).2 k hk.narrowest.1)
  refine hk.append_singleton ?_
  rw [narrowestSetters_append_singleton, if_neg hnot, List.append_nil,
    List.filter_eq_self.2 hkeep]
  exact hk.last

/-- Where a further setter does not compare with the best one, none is the narrowest any more. -/
theorem SettlesOn.narrowestSetters_eq_nil (hh : h.Grounded) (hk : h.SettlesOn setters k)
    (hunrelated : h.Unrelated k.firstParamClass s.firstParamClass) :
    h.narrowestSetters (setters ++ [s]) = [] := by
  have hnot : ¬ ∀ t ∈ setters, h.isAssignable t.firstParamClass s.firstParamClass = true :=
    fun hall => Bool.false_ne_true (hunrelated.1.symm.trans (hall k hk.narrowest.1))
  have hdrop : ∀ t ∈ h.narrowestSetters setters,
      ¬ h.isAssignable s.firstParamClass t.firstParamClass = true := by
    intro t ht hassignable
    have hmem : t ∈ setters := (mem_narrowestSetters_iff.1 ht).1
    have hrelated : h.isAssignable s.firstParamClass k.firstParamClass = true :=
      hh.isAssignable_trans hassignable (hk.narrowest.2 t hmem)
    exact Bool.false_ne_true (hunrelated.2.symm.trans hrelated)
  rw [narrowestSetters_append_singleton, if_neg hnot, List.append_nil,
    List.filter_eq_nil_iff.2 hdrop]

/-- Two setters of the list do not compare, and some beginning of the list has no setter that takes
the narrowest class. -/
structure Undecided (h : Hierarchy) (setters : List Method) (k : Method) : Prop where
  /-- A later setter takes a class that is unrelated to that of the first one. -/
  unrelated : ∃ t, [k, t].Sublist setters ∧ h.Unrelated k.firstParamClass t.firstParamClass
  /-- In some beginning no class is the narrowest. -/
  beginning : ∃ beginning, beginning <+: setters ∧ beginning ≠ [] ∧
    h.narrowestSetters beginning = []

/-- Further setters decide nothing. -/
theorem Undecided.append (hk : h.Undecided setters k) (rest : List Method) :
    h.Undecided (setters ++ rest) k := by
  obtain ⟨t, hpair, hunrelated⟩ := hk.unrelated
  obtain ⟨beginning, hprefix, hne, hnil⟩ := hk.beginning
  exact ⟨⟨t, hpair.trans (List.sublist_append_left setters rest), hunrelated⟩,
    beginning, hprefix.trans (List.prefix_append setters rest), hne, hnil⟩

/-- Where two setters do not compare, the choice settles on nothing. -/
theorem Undecided.not_settlesOn (hk : h.Undecided setters k) : ¬ h.SettlesOn setters m := by
  intro hm
  obtain ⟨beginning, hprefix, hne, hnil⟩ := hk.beginning
  exact hm.beginnings beginning hprefix hne hnil

/-- Comparing the setter that the choice has settled on with a further one either settles on one of
the two or leaves the choice undecided. -/
theorem SettlesOn.step (hh : h.Grounded) (hk : h.SettlesOn setters k) (property : String)
    (s : Method) :
    (∃ m, h.narrower property (some (.winner k)) s = .winner m ∧
      h.SettlesOn (setters ++ [s]) m) ∨
    ∃ cause, h.narrower property (some (.winner k)) s = .ambiguous k cause ∧
      h.Undecided (setters ++ [s]) k := by
  rw [Hierarchy.narrower]
  cases hwider : h.isAssignable k.firstParamClass s.firstParamClass with
  | true => exact .inl ⟨s, if_pos rfl, hk.moves hh hwider⟩
  | false =>
    rw [if_neg Bool.false_ne_true]
    cases hnarrower : h.isAssignable s.firstParamClass k.firstParamClass with
    | true => exact .inl ⟨k, if_pos rfl, hk.stays hh hwider hnarrower⟩
    | false =>
      right
      have hunrelated : h.Unrelated k.firstParamClass s.firstParamClass := ⟨hwider, hnarrower⟩
      have hpair : [k, s].Sublist (setters ++ [s]) :=
        (List.singleton_sublist.2 hk.narrowest.1).append (.refl [s])
      exact ⟨_, if_neg Bool.false_ne_true, ⟨s, hpair, hunrelated⟩, setters ++ [s],
        List.prefix_rfl, List.append_ne_nil_of_right_ne_nil _ (List.cons_ne_nil _ _),
        hk.narrowestSetters_eq_nil hh hunrelated⟩

/-- Comparing some setters one after the other settles on the last of the narrowest ones, or ends in
the first pair that does not compare. -/
theorem Grounded.exists_foldl_narrower (hh : h.Grounded) (property : String)
    (hne : setters ≠ []) :
    ∃ result, setters.foldl (fun choice s => some (h.narrower property choice s)) none =
        some result ∧
      ((∃ k, result = .winner k ∧ h.SettlesOn setters k) ∨
        ∃ k cause, result = .ambiguous k cause ∧ h.Undecided setters k) := by
  induction setters using List.reverseRecOn with
  | nil => exact absurd rfl hne
  | append_singleton setters s ih =>
    rw [List.foldl_append, List.foldl_cons, List.foldl_nil]
    refine ⟨_, rfl, ?_⟩
    rcases eq_or_ne setters [] with rfl | hne
    · exact .inl ⟨s, rfl, h.settlesOn_singleton s⟩
    obtain ⟨result, hresult, ⟨k, rfl, hk⟩ | ⟨k, cause, rfl, hk⟩⟩ := ih hne
    · rw [hresult]
      rcases hk.step hh property s with ⟨m, hm, hsettles⟩ | ⟨cause, hcause, hundecided⟩
      · exact .inl ⟨m, hm, hsettles⟩
      · exact .inr ⟨k, cause, hcause, hundecided⟩
    · rw [hresult]
      exact .inr ⟨k, cause, rfl, hk.append [s]⟩

/-! ### The whole choice -/

/-- The choice among some setters, given the class that one of them should take. -/
inductive ChoosesSetter (h : Hierarchy) (wanted : Option ClassRef) (setters : List Method) :
    SetterChoice → Prop where
  /-- The first setter that takes exactly the wanted class. -/
  | exact {k : Method} (hfind : setters.find? (fun s => wanted = some s.firstParamClass) = some k) :
    ChoosesSetter h wanted setters (.winner k)
  /-- No setter takes exactly this class, and comparing them settles on one of them. -/
  | narrowest {k : Method} (hnone : ∀ s ∈ setters, wanted ≠ some s.firstParamClass)
    (hsettles : h.SettlesOn setters k) : ChoosesSetter h wanted setters (.winner k)
  /-- No setter takes exactly this class, and two of them do not compare. -/
  | undecided {k : Method} {cause : Ambiguity}
    (hnone : ∀ s ∈ setters, wanted ≠ some s.firstParamClass) (hundecided : h.Undecided setters k) :
    ChoosesSetter h wanted setters (.ambiguous k cause)

theorem find?_exact_eq_none_iff : setters.find? (fun s => wanted = some s.firstParamClass) = none ↔
    ∀ s ∈ setters, wanted ≠ some s.firstParamClass := by
  simp only [List.find?_eq_none, decide_eq_true_eq, ne_eq]

theorem exact_of_find? (hfind : setters.find? (fun s => wanted = some s.firstParamClass) = some k) :
    k ∈ setters ∧ wanted = some k.firstParamClass :=
  ⟨List.mem_of_find?_eq_some hfind, by simpa using List.find?_some hfind⟩

/-- Where a setter takes exactly the wanted class, there is a first one. -/
theorem exists_find?_exact (hs : s ∈ setters) (hexact : wanted = some s.firstParamClass) :
    ∃ k, setters.find? (fun s => wanted = some s.firstParamClass) = some k := by
  rw [← Option.ne_none_iff_exists', ne_eq, find?_exact_eq_none_iff]
  exact fun hnone => hnone s hs hexact

/-- A setter that takes exactly the wanted class is recorded last, whatever was chosen before. -/
theorem getLast?_recordedSetters_of_find? (property : String) (choice : Option SetterChoice)
    (hfind : setters.find? (fun s => wanted = some s.firstParamClass) = some k) :
    (h.recordedSetters property wanted choice setters).getLast? = some (.winner k) := by
  induction setters generalizing choice with
  | nil => cases hfind
  | cons s rest ih =>
    rw [recordedSetters]
    rw [List.find?_cons] at hfind
    by_cases hexact : wanted = some s.firstParamClass
    · rw [decide_eq_true hexact] at hfind
      cases hfind
      rw [if_pos hexact, List.getLast?_concat]
    · rw [decide_eq_false hexact] at hfind
      rw [if_neg hexact]
      exact ih _ hfind

/-- Where no setter takes exactly the wanted class, the outcome of all comparisons is recorded. -/
theorem recordedSetters_eq_foldl (property : String) (choice : Option SetterChoice)
    (hnone : ∀ s ∈ setters, wanted ≠ some s.firstParamClass) :
    h.recordedSetters property wanted choice setters =
      (setters.foldl (fun choice s => some (h.narrower property choice s)) choice).toList := by
  induction setters generalizing choice with
  | nil => rfl
  | cons s rest ih =>
    rw [recordedSetters, if_neg (hnone s List.mem_cons_self), List.foldl_cons]
    exact ih _ fun t ht => hnone t (List.mem_cons_of_mem s ht)

/-- What is recorded last for some setters is what the choice among them comes to. -/
theorem Grounded.exists_getLast?_recordedSetters (hh : h.Grounded) (property : String)
    (wanted : Option ClassRef) (hne : setters ≠ []) :
    ∃ result, (h.recordedSetters property wanted none setters).getLast? = some result ∧
      h.ChoosesSetter wanted setters result := by
  cases hfind : setters.find? (fun s => wanted = some s.firstParamClass) with
  | some k =>
    have hlast : (h.recordedSetters property wanted none setters).getLast? = some (.winner k) :=
      getLast?_recordedSetters_of_find? property none hfind
    exact ⟨.winner k, hlast, .exact hfind⟩
  | none =>
    have hnone : ∀ s ∈ setters, wanted ≠ some s.firstParamClass := find?_exact_eq_none_iff.1 hfind
    obtain ⟨result, hresult, hcases⟩ := hh.exists_foldl_narrower property hne
    have hlast : (h.recordedSetters property wanted none setters).getLast? = some result := by
      rw [recordedSetters_eq_foldl property none hnone, hresult]
      rfl
    rcases hcases with ⟨k, rfl, hsettles⟩ | ⟨k, cause, rfl, hundecided⟩
    · exact ⟨_, hlast, .narrowest hnone hsettles⟩
    · exact ⟨_, hlast, .undecided hnone hundecided⟩

end Hierarchy

end Introspection
