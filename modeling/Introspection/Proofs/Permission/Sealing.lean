import Introspection.Permission.Store

/-!
# Seals

A sealed class keeps its seal and its entry, or the absence of one, whatever is done with the store
afterwards: `PermissionStore.KeepsSeals` compares a store with a later one, and every operation
leads to a store in this relation.

The permission in force is another matter.  A sealed class without an entry of its own goes on to
follow the permission of all classes, so its permission stays what it was exactly if it has an entry
or that permission has not changed (`KeepsSeals.resolve_eq_iff`).
-/

namespace Introspection.PermissionStore

/-- Every class that is sealed in the first store is sealed in the second one, and has the same
entry there or none in both. -/
structure KeepsSeals (s s' : PermissionStore) : Prop where
  /-- Seals are not broken. -/
  isSealed : ∀ {id}, s.isSealed id = true → s'.isSealed id = true
  /-- The entries of sealed classes are fixed. -/
  find?_eq : ∀ {id}, s.isSealed id = true → s'.classes.find? id = s.classes.find? id

variable {s s' s'' : PermissionStore} {id : ClassId}

namespace KeepsSeals

theorem refl (s : PermissionStore) : s.KeepsSeals s := ⟨fun h => h, fun _ => rfl⟩

theorem trans (h : s.KeepsSeals s') (h' : s'.KeepsSeals s'') : s.KeepsSeals s'' :=
  ⟨fun hid => h'.isSealed (h.isSealed hid),
    fun hid => (h'.find?_eq (h.isSealed hid)).trans (h.find?_eq hid)⟩

/-! ### Operations -/

theorem setGlobal (s : PermissionStore) (p : Permission) : s.KeepsSeals (s.setGlobal p) :=
  ⟨fun h => h, fun _ => rfl⟩

/-- The entry that is set is not that of a sealed class. -/
theorem of_setClass? {p : Permission} (h : s.setClass? id p = some s') : s.KeepsSeals s' := by
  unfold setClass? at h
  split at h
  · cases h
  · next hopen =>
    cases h
    refine ⟨fun hother => hother, fun {other} hother => ?_⟩
    have hne : other ≠ id := fun heq => hopen (heq ▸ hother)
    exact Assoc.find?_insert_of_ne _ p hne

/-- The entry that is taken away is not that of a sealed class. -/
theorem of_clearClass? (h : s.clearClass? id = some s') : s.KeepsSeals s' := by
  unfold clearClass? at h
  split at h
  · cases h
  · next hopen =>
    cases h
    refine ⟨fun hother => hother, fun {other} hother => ?_⟩
    have hne : other ≠ id := fun heq => hopen (heq ▸ hother)
    rw [Assoc.find?_erase, if_neg hne]

theorem sealClass (s : PermissionStore) (id : ClassId) : s.KeepsSeals (s.sealClass id) :=
  ⟨fun hother => by simp_all [PermissionStore.isSealed, PermissionStore.sealClass], fun _ => rfl⟩

/-- An operation that may be refused keeps the seals, since it leaves the store as it is then. -/
theorem getD {outcome : Option PermissionStore} (h : ∀ s', outcome = some s' → s.KeepsSeals s') :
    s.KeepsSeals (outcome.getD s) := by
  cases outcome with
  | none => exact .refl s
  | some s' => exact h s' rfl

/-! ### The permission in force -/

variable (h : s.KeepsSeals s') (hid : s.isSealed id = true)

include h hid

/-- With an entry of its own a sealed class keeps its permission, and without one it follows that of
all classes. -/
theorem resolve_eq :
    s'.resolve id = if (s.classes.find? id).isSome then s.resolve id else s'.globalDefault := by
  rw [resolve, h.find?_eq hid, resolve]
  cases s.classes.find? id <;> rfl

/-- A sealed class keeps its permission exactly if it has an entry of its own, or the permission of
all classes is the same in both stores. -/
theorem resolve_eq_iff : s'.resolve id = s.resolve id ↔
    (s.classes.find? id).isSome = true ∨ s'.globalDefault = s.globalDefault := by
  rw [h.resolve_eq hid]
  cases hentry : s.classes.find? id <;> simp [resolve, hentry]

/-- A sealed class keeps the answer for one kind of access exactly if it has an entry of its own, or
the permission of all classes gives the same answer in both stores. -/
theorem canControl_eq_iff (kind : AccessKind) : s'.canControl id kind = s.canControl id kind ↔
    (s.classes.find? id).isSome = true ∨
      s'.globalDefault.contains kind.privateFlag = s.globalDefault.contains kind.privateFlag := by
  rw [canControl, canControl, h.resolve_eq hid]
  cases hentry : s.classes.find? id <;> simp [resolve, hentry]

end KeepsSeals

/-- A class is sealed once it has been sealed. -/
theorem isSealed_sealClass (s : PermissionStore) (id : ClassId) :
    (s.sealClass id).isSealed id = true := by
  simp [isSealed, sealClass]

end Introspection.PermissionStore
