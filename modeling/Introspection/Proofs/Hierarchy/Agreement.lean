import Introspection.Proofs.Resolution.Termination
import Mathlib.Data.List.Find

/-!
# Hierarchies that agree

Two tables agree on some classes (`Hierarchy.AgreeOn`) if they declare the same of each of them, and
all supertypes of these classes are among them.  Then all questions about these classes have the
same answer in both, whatever else the tables hold: not only which classes one of them inherits
from, but also which runtime classes made of them can stand for which others, what these are called,
and what a type means as seen from one of them.

The last one takes a ranking of both tables.  The bound on the steps of the resolver grows with the
table, and only where it is never met does the answer not depend on it.
-/

namespace Introspection

/-- The class that occurs in a runtime class: a declared one itself, and in an array the one behind
its innermost component. -/
def ClassRef.element? : ClassRef → Option ClassId
  | primitive _ => none
  | declared id => some id
  | array component => component.element?

/-- The class that occurs in a runtime class, if there is one, is among some classes. -/
def ClassRef.Within (P : ClassId → Prop) (ref : ClassRef) : Prop :=
  ∀ id, ref.element? = some id → P id

namespace Hierarchy

variable {h h' : Hierarchy} {P : ClassId → Prop} {id : ClassId} {source : Ty}

/-! ### Subtyping and names -/

/-- The runtime classes made of them can stand for the same others. -/
theorem AgreeOn.isAssignable_eq (hagree : h.AgreeOn h' P) {sub : ClassRef} (hsub : sub.Within P)
    (sup : ClassRef) : h'.isAssignable sup sub = h.isAssignable sup sub := by
  induction sub generalizing sup with
  | primitive p => cases sup <;> rfl
  | declared id =>
    have hid : P id := hsub id rfl
    cases sup with
    | declared sup => exact hagree.isSubclass_eq hid sup
    | _ => rfl
  | array component ih =>
    have hcomponent : component.Within P := hsub
    cases sup with
    | array sup => rw [isAssignable, isAssignable, ih hcomponent]
    | _ => rfl

/-- The runtime classes made of them have the same names. -/
theorem AgreeOn.refName_eq (hagree : h.AgreeOn h' P) {ref : ClassRef} (href : ref.Within P) :
    h'.refName ref = h.refName ref := by
  induction ref with
  | primitive p => rfl
  | declared id => rw [refName, refName, hagree.declaration_eq (href id rfl)]
  | array component ih => rw [refName, refName, ih href]

/-! ### Resolution -/

theorem AgreeOn.paramIndex?_eq (hagree : h.AgreeOn h' P) (hid : P id) (v : VariableId) :
    h'.paramIndex? id v = h.paramIndex? id v := by
  rw [paramIndex?, paramIndex?, params, params, hagree.declaration_eq hid]

/-- A supertype of one of the classes is seen alike from a source. -/
theorem AgreeOn.translate_eq (hagree : h.AgreeOn h' P) (hid : P id) (source parent : Ty) :
    h'.translate id source parent = h.translate id source parent := by
  have harg : ∀ args, h'.translateArg id args = h.translateArg id args := by
    intro args
    funext arg
    unfold translateArg
    split
    · rw [hagree.paramIndex?_eq hid]
    · rfl
  unfold translate
  split
  · rw [harg]
  · rfl

/-- From one of the classes the way goes on to the same type. -/
theorem AgreeOn.stepTowards?_eq (hagree : h.AgreeOn h' P) (hid : P id) (declaring : ClassId)
    (source : Ty) : h'.stepTowards? declaring id source = h.stepTowards? declaring id source := by
  have hleads : ∀ written ∈ (h.declaration id).supertypes,
      h'.leadsTo declaring written = h.leadsTo declaring written := by
    intro written hwritten
    unfold leadsTo
    cases hraw : written.rawClass? with
    | none => rfl
    | some raw =>
      have hP : P raw := hagree.closed hid (edge_of_mem_supertypes hwritten hraw)
      exact hagree.isSubclass_eq hP declaring
  have hview : h'.translate id source = h.translate id source :=
    funext fun written => hagree.translate_eq hid source written
  rw [stepTowards?, stepTowards?, hagree.declaration_eq hid, List.find?_congr hleads, hview]

/-- An instance of one of the classes binds the same arguments. -/
theorem AgreeOn.boundArg?_eq (hagree : h.AgreeOn h' P) (hraw : source.rawClass? = some id)
    (hid : P id) (declaring : ClassId) (v : VariableId) :
    h'.boundArg? declaring v source = h.boundArg? declaring v source := by
  cases source with
  | parameterized raw args =>
    obtain rfl : raw = id := Option.some.inj hraw
    rw [boundArg?, boundArg?, hagree.paramIndex?_eq hid]
  | _ => rfl

/-- Within the same number of steps the resolver finds the same from an instance of one of the
classes. -/
theorem AgreeOn.imageWithin_eq (hagree : h.AgreeOn h' P) (declaring : ClassId) (v : VariableId)
    (bounds : List Ty) (fuel : Nat) (hraw : source.rawClass? = some id) (hid : P id) :
    h'.imageWithin declaring v bounds fuel source =
      h.imageWithin declaring v bounds fuel source := by
  induction fuel generalizing source id with
  | zero => rfl
  | succ fuel ih =>
    rw [imageWithin, imageWithin, hraw]
    dsimp only
    rw [hagree.stepTowards?_eq hid]
    by_cases heq : id = declaring
    · rw [if_pos heq, if_pos heq]
    rw [if_neg heq, if_neg heq]
    cases hstep : h.stepTowards? declaring id source with
    | none => rfl
    | some next =>
      obtain ⟨raw, hnext, hedge⟩ := exists_edge_of_stepTowards? hstep
      have hP : P raw := hagree.closed hid hedge
      have hbound : h'.boundArg? declaring v next = h.boundArg? declaring v next :=
        hagree.boundArg?_eq hnext hP declaring v
      have hrest := ih hnext hP
      dsimp only
      rw [hbound, hrest]

/-- A variable stands for the same type as seen from one of the classes: both resolvers have an
answer that does not depend on their bounds, and within a bound that suffices for both they find
the same. -/
theorem AgreeOn.image_eq (hagree : h.AgreeOn h' P) (ranking : h.Ranking) (ranking' : h'.Ranking)
    (hraw : source.rawClass? = some id) (hid : P id) (declaring : ClassId) :
    h'.image source declaring = h.image source declaring := by
  funext v bounds
  obtain ⟨ty, himage, hty⟩ := ranking.exists_image_eq declaring v bounds hraw
  obtain ⟨ty', himage', hty'⟩ := ranking'.exists_image_eq declaring v bounds hraw
  let fuel := h.declarations.length + h'.declarations.length + 1
  have hfuel : h.imageWithin declaring v bounds fuel source = some ty := hty fuel (by omega)
  have hfuel' : h'.imageWithin declaring v bounds fuel source = some ty' := hty' fuel (by omega)
  have hsame : some ty' = some ty := by
    rw [← hfuel, ← hfuel', hagree.imageWithin_eq declaring v bounds fuel hraw hid]
  rw [himage, himage', Option.some.inj hsame]

/-- A type means the same as seen from one of the classes, wherever it is written. -/
theorem AgreeOn.resolve_eq (hagree : h.AgreeOn h' P) (ranking : h.Ranking) (ranking' : h'.Ranking)
    (hraw : source.rawClass? = some id) (hid : P id) (ty : Ty) (declaring : ClassId) :
    h'.resolve ty source declaring = h.resolve ty source declaring := by
  rw [resolve, resolve, hagree.image_eq ranking ranking' hraw hid]

end Hierarchy

end Introspection
