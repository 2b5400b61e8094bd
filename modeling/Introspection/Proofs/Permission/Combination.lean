import Introspection.Permission.Parse
import Mathlib.Data.Finset.Fold
import Mathlib.Data.List.TakeWhile
import Mathlib.Data.Option.NAry

/-!
# Combined permissions

A combined permission is read part by part, and the flags of all parts are put together.  Taking the
union of what has been read of two texts, where both could be read, is `Option.map₂ union`: an
associative, commutative and idempotent operation, with the permission without flags as its neutral
element and the text that cannot be read as its absorbing one.

A bar between two texts stands for this operation (`parseCombined?_append_bar`), because the parts
of both texts are the parts of the whole (`splitBars_append_bar`).  So a text of several parts
stands for a fold over the set of its parts (`parseCombined?_intercalate`), which knows neither
their order nor how often each one is written.  `parseCombined_homomorphism` is the main statement.
-/

namespace Introspection.Permission

/-! ### Union -/

instance : Std.Associative union :=
  ⟨fun p q r => congrArg mk (UInt8.or_assoc p.bits q.bits r.bits)⟩

instance : Std.Commutative union :=
  ⟨fun p q => congrArg mk (UInt8.or_comm p.bits q.bits)⟩

instance : Std.IdempotentOp union :=
  ⟨fun _ => congrArg mk UInt8.or_self⟩

@[simp] theorem nothing_union (p : Permission) : nothing.union p = p :=
  congrArg mk UInt8.zero_or

@[simp] theorem union_nothing (p : Permission) : p.union nothing = p :=
  congrArg mk UInt8.or_zero

/-! Where one of two texts cannot be read there is no union, which keeps all of these laws. -/

instance : Std.Associative (Option.map₂ union) :=
  ⟨fun _ _ _ => Option.map₂_assoc Std.Associative.assoc⟩

instance : Std.Commutative (Option.map₂ union) :=
  ⟨fun _ _ => Option.map₂_comm Std.Commutative.comm⟩

instance : Std.IdempotentOp (Option.map₂ union) where
  idempotent
    | none => rfl
    | some p => congrArg some (Std.IdempotentOp.idempotent p)

/-! ### Parts -/

theorem splitBars_eq_splitOn (s : List Char) : splitBars s = s.splitOn '|' := by
  induction s with
  | nil => rw [splitBars, List.splitOn_nil]
  | cons c cs ih =>
    rw [splitBars, List.splitOn_cons_eq_if_modifyHead, ih]
    by_cases hbar : c = '|'
    · simp [hbar]
    · obtain ⟨part, parts, hparts⟩ := List.exists_cons_of_ne_nil (List.splitOn_ne_nil '|' cs)
      simp [hbar, hparts]

/-- The parts of two texts with a bar between them are those of the one and then those of the
other. -/
theorem splitBars_append_bar (s t : List Char) :
    splitBars (s ++ '|' :: t) = splitBars s ++ splitBars t := by
  simp only [splitBars_eq_splitOn, List.splitOn_append_cons_self]

/-- A text without bars is its own single part. -/
theorem splitBars_of_notMem {s : List Char} (hbar : '|' ∉ s) : splitBars s = [s] := by
  rw [splitBars_eq_splitOn, List.splitOn_eq_singleton hbar]

/-- What comes out of the parts is added to the permission that has been given. -/
theorem unionOfParts?_eq_map₂ (p : Permission) (parts : List (List Char)) :
    unionOfParts? p parts = Option.map₂ union (some p) (unionOfParts? nothing parts) := by
  induction parts generalizing p with
  | nil => simp [unionOfParts?]
  | cons part parts ih =>
    simp only [unionOfParts?]
    cases parse? (Text.trim part) with
    | none => rfl
    | some q =>
      calc unionOfParts? (p.union q) parts
          = Option.map₂ union (Option.map₂ union (some p) (some q)) (unionOfParts? nothing parts) :=
            ih (p.union q)
        _ = Option.map₂ union (some p)
              (Option.map₂ union (some q) (unionOfParts? nothing parts)) :=
            Std.Associative.assoc _ _ _
        _ = Option.map₂ union (some p) (unionOfParts? (nothing.union q) parts) := by
            rw [nothing_union, ← ih q]

/-- Parts are read one after the other. -/
theorem unionOfParts?_append (p : Permission) (parts parts' : List (List Char)) :
    unionOfParts? p (parts ++ parts') =
      (unionOfParts? p parts).bind fun q => unionOfParts? q parts' := by
  induction parts generalizing p with
  | nil => rfl
  | cons part parts ih =>
    simp only [List.cons_append, unionOfParts?]
    cases parse? (Text.trim part) with
    | none => rfl
    | some q => exact ih (p.union q)

/-! ### Texts -/

/-- A bar stands for the union. -/
theorem parseCombined?_append_bar (s t : String) :
    parseCombined? (s ++ "|" ++ t) =
      Option.map₂ union (parseCombined? s) (parseCombined? t) := by
  have hparts : splitBars (s ++ "|" ++ t).toList = splitBars s.toList ++ splitBars t.toList := by
    rw [← splitBars_append_bar]
    simp
  rw [parseCombined?, hparts, unionOfParts?_append, parseCombined?, parseCombined?]
  cases unionOfParts? nothing (splitBars s.toList) with
  | none => rfl
  | some p => exact unionOfParts?_eq_map₂ p _

/-- A text without bars is read as a single permission, blank space around it aside. -/
theorem parseCombined?_of_notMem {s : String} (hbar : '|' ∉ s.toList) :
    parseCombined? s = parse? (Text.trim s.toList) := by
  rw [parseCombined?, splitBars_of_notMem hbar]
  simp only [unionOfParts?]
  cases parse? (Text.trim s.toList) <;> simp

/-- A text of several parts stands for the union over the set of its parts. -/
theorem parseCombined?_intercalate {parts : List String} (hparts : parts ≠ []) :
    parseCombined? ("|".intercalate parts) =
      parts.toFinset.fold (Option.map₂ union) (some nothing) parseCombined? := by
  induction parts with
  | nil => exact absurd rfl hparts
  | cons part parts ih =>
    rw [List.toFinset_cons, Finset.fold_insert_idem]
    rcases eq_or_ne parts [] with rfl | hrest
    · simp
    · rw [String.intercalate_cons_of_ne_nil hrest, parseCombined?_append_bar, ih hrest]

/-- Texts with the same parts are read alike, whatever the order of the parts and however often each
one is written. -/
theorem parseCombined?_intercalate_congr {parts parts' : List String}
    (hsame : ∀ part, part ∈ parts ↔ part ∈ parts') :
    parseCombined? ("|".intercalate parts) = parseCombined? ("|".intercalate parts') := by
  cases parts with
  | nil =>
    have hnone : parts' = [] :=
      List.eq_nil_iff_forall_not_mem.2 fun part hpart => List.not_mem_nil ((hsame part).2 hpart)
    rw [hnone]
  | cons first parts =>
    have hsome : parts' ≠ [] := List.ne_nil_of_mem ((hsame first).1 List.mem_cons_self)
    have hset : (first :: parts).toFinset = parts'.toFinset := by
      ext part
      rw [List.mem_toFinset, List.mem_toFinset, hsame part]
    rw [parseCombined?_intercalate (List.cons_ne_nil first parts),
      parseCombined?_intercalate hsome, hset]

/-- A union over a set of parts is refused exactly if one of them cannot be read. -/
theorem fold_parseCombined?_eq_none_iff (parts : Finset String) :
    parts.fold (Option.map₂ union) (some nothing) parseCombined? = none ↔
      ∃ part ∈ parts, parseCombined? part = none := by
  induction parts using Finset.induction_on with
  | empty => simp
  | insert part parts _ ih =>
    rw [Finset.fold_insert_idem, Option.map₂_eq_none_iff, ih, Finset.exists_mem_insert]

/-- A text of several parts cannot be read exactly if one of its parts cannot. -/
theorem parseCombined?_intercalate_eq_none_iff {parts : List String} (hparts : parts ≠ []) :
    parseCombined? ("|".intercalate parts) = none ↔
      ∃ part ∈ parts, parseCombined? part = none := by
  rw [parseCombined?_intercalate hparts, fold_parseCombined?_eq_none_iff]
  simp only [List.mem_toFinset]

/-- Blank space is not a permission. -/
theorem parseCombined?_of_isBlank {s : String} (hblank : ∀ c ∈ s.toList, Text.isBlank c = true) :
    parseCombined? s = none := by
  have hbar : '|' ∉ s.toList := fun hmem => absurd (hblank _ hmem) (by decide)
  have htrim : Text.trim s.toList = [] := by
    rw [Text.trim, List.dropWhile_eq_nil_iff.2 hblank]
    rfl
  rw [parseCombined?_of_notMem hbar, htrim]
  decide

/-- Reading takes bars to unions.  Two texts with a bar between them can be read exactly if both
can, and then stand for the union of the two permissions; a text without bars is a single
permission.  So what a list of parts stands for depends only on which parts there are, it cannot be
read exactly if one of them cannot, and a part that is empty or blank cannot. -/
theorem parseCombined_homomorphism :
    (∀ s t : String, parseCombined? (s ++ "|" ++ t) =
      match parseCombined? s, parseCombined? t with
      | some p, some q => some (p.union q)
      | _, _ => none) ∧
    (∀ part : String, '|' ∉ part.toList →
      parseCombined? part = parse? (Text.trim part.toList)) ∧
    (∀ parts parts' : List String, (∀ part, part ∈ parts ↔ part ∈ parts') →
      parseCombined? ("|".intercalate parts) = parseCombined? ("|".intercalate parts')) ∧
    (∀ parts : List String, parts ≠ [] →
      (parseCombined? ("|".intercalate parts) = none ↔
        ∃ part ∈ parts, parseCombined? part = none)) ∧
    ∀ part : String, (∀ c ∈ part.toList, Text.isBlank c = true) → parseCombined? part = none := by
  refine ⟨fun s t => ?_, fun _ => parseCombined?_of_notMem,
    fun _ _ => parseCombined?_intercalate_congr,
    fun _ => parseCombined?_intercalate_eq_none_iff, fun _ => parseCombined?_of_isBlank⟩
  rw [parseCombined?_append_bar]
  cases parseCombined? s <;> cases parseCombined? t <;> rfl

/-- Names and numbers can be mixed, in any order and more than once, and an empty part among them
spoils the whole. -/
theorem readAll_invokePublic_homomorphism :
    ('|' ∉ " 0x10".toList ∧ parseCombined? " 0x10" = some invokePublic) ∧
      ((∀ part, part ∈ [" 0x10", "read_all ", " 0x10"] ↔ part ∈ ["read_all ", " 0x10"]) ∧
        parseCombined? ("|".intercalate [" 0x10", "read_all ", " 0x10"]) = some ⟨0x13⟩) ∧
      (["read_all ", "", " 0x10"] ≠ [] ∧
        parseCombined? ("|".intercalate ["read_all ", "", " 0x10"]) = none) ∧
      ∀ c ∈ "".toList, Text.isBlank c = true := by
  obtain ⟨hunion, hpart, hsame, hrefused, hblank⟩ := parseCombined_homomorphism
  have hnumber : parseCombined? " 0x10" = some invokePublic := by
    rw [hpart " 0x10" (by decide)]
    decide +kernel
  have hboth : parseCombined? ("|".intercalate ["read_all ", " 0x10"]) = some ⟨0x13⟩ := by
    rw [String.intercalate_cons_cons, String.intercalate_singleton, hunion, hnumber]
    decide +kernel
  have hparts : ∀ part, part ∈ [" 0x10", "read_all ", " 0x10"] ↔ part ∈ ["read_all ", " 0x10"] := by
    simp [or_comm]
  have hempty : ∀ c ∈ "".toList, Text.isBlank c = true := by simp
  exact ⟨⟨by decide, hnumber⟩, ⟨hparts, (hsame _ _ hparts).trans hboth⟩,
    ⟨by decide, (hrefused _ (by decide)).2 ⟨"", by decide, hblank "" hempty⟩⟩, hempty⟩

end Introspection.Permission
