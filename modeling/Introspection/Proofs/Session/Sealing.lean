import Introspection.Proofs.Config.Application
import Introspection.Proofs.Permission.Sealing
import Introspection.Proofs.Session.Calls

/-!
# Seals along runs

No action breaks a seal: `keepsSeals_step` for one action, `keepsSeals_foldl_step` for a run from
any session.

Sealing does not fix the permission in force, though.  A sealed class without an entry of its own
follows the permission of all classes as before (`resolve_changed_after_sealClass`), and what is
left of the promise is `resolve_after_sealClass_iff`.
-/

namespace Introspection

open PermissionStore (KeepsSeals)

/-- Setting permissions of single classes keeps the seals; entries of sealed classes are passed
over. -/
theorem Config.keepsSeals_setClasses (store : PermissionStore)
    (entries : List (ClassId × Permission)) : store.KeepsSeals (setClasses store entries) := by
  induction entries generalizing store with
  | nil => exact .refl store
  | cons e entries ih =>
    have hfirst : store.KeepsSeals ((store.setClass? e.1 e.2).getD store) :=
      .getD fun _ => .of_setClass?
    exact hfirst.trans (ih _)

/-- Putting the permissions of a configuration into a store keeps the seals. -/
theorem Config.keepsSeals_of_apply {c : Config} {r : Registry} {store store' : PermissionStore}
    (h : c.apply r store = .ok store') : store.KeepsSeals store' := by
  obtain ⟨global, entries, -, -, -, rfl⟩ := apply_eq_ok_iff.1 h
  exact (KeepsSeals.setGlobal store global).trans (keepsSeals_setClasses _ entries)

namespace Session

/-- No action breaks a seal or changes the entry of a sealed class. -/
theorem keepsSeals_step (s : Session) (action : Action) :
    s.state.permissions.KeepsSeals (s.step action).state.permissions := by
  cases action with
  | registry call => exact .refl _
  | setGlobal p => exact .setGlobal _ p
  | setClass id p => exact .getD fun _ => .of_setClass?
  | clearClass id => exact .getD fun _ => .of_clearClass?
  | sealClass id => exact .sealClass _ id
  | configure c =>
    unfold step
    dsimp only
    split
    · next happly => exact Config.keepsSeals_of_apply happly
    · exact .refl _
  | build id =>
    unfold step
    dsimp only
    split <;> exact .refl _
  | construct index =>
    unfold step
    dsimp only
    split
    · next m _ => exact (m.newInstance_frame s.state).2 ▸ .refl _
    · exact .refl _
  | invoke index direction name target args =>
    unfold step
    dsimp only
    split
    · next outcome houtcome =>
      have hcall : s.outcome? (.invoke index direction name target args) = some outcome := houtcome
      exact (outcome?_frame hcall).2 ▸ .refl _
    · exact .refl _

/-- Nor does a run. -/
theorem keepsSeals_foldl_step (s : Session) (actions : List Action) :
    s.state.permissions.KeepsSeals (actions.foldl step s).state.permissions := by
  induction actions generalizing s with
  | nil => exact .refl _
  | cons action actions ih => exact (keepsSeals_step s action).trans (ih (s.step action))

/-- Once a class has been sealed, it stays sealed whatever is done afterwards.  Its permission is
then what it was when the class was sealed exactly if the class had an entry of its own at that
time, or the permission of all classes is what it was at that time; likewise for each kind of
access. -/
theorem resolve_after_sealClass_iff (s : Session) (id : ClassId) (actions : List Action) :
    let sealing := (s.step (.sealClass id)).state.permissions
    let later := (actions.foldl step (s.step (.sealClass id))).state.permissions
    later.isSealed id = true ∧
      (later.resolve id = sealing.resolve id ↔
        (s.state.permissions.classes.find? id).isSome = true ∨
          later.globalDefault = sealing.globalDefault) ∧
      ∀ kind, later.canControl id kind = sealing.canControl id kind ↔
        (s.state.permissions.classes.find? id).isSome = true ∨
          later.globalDefault.contains kind.privateFlag =
            sealing.globalDefault.contains kind.privateFlag := by
  intro sealing later
  have hsealed : sealing.isSealed id = true := PermissionStore.isSealed_sealClass _ id
  have hkept : sealing.KeepsSeals later := keepsSeals_foldl_step _ actions
  exact ⟨hkept.isSealed hsealed, hkept.resolve_eq_iff hsealed, hkept.canControl_eq_iff hsealed⟩

/-- A class without an entry of its own is sealed while everything is allowed.  When the permission
of all classes is set to nothing afterwards, the class is still sealed and nothing is allowed. -/
theorem resolve_changed_after_sealClass :
    let sealing := (initial.step (.sealClass ⟨1⟩)).state.permissions
    let later := (run [.sealClass ⟨1⟩, .setGlobal .nothing]).state.permissions
    later.isSealed ⟨1⟩ = true ∧ sealing.resolve ⟨1⟩ = .everything ∧
      later.resolve ⟨1⟩ = .nothing ∧ sealing.canControl ⟨1⟩ .read = true ∧
        later.canControl ⟨1⟩ .read = false := by
  decide +kernel

end Session

end Introspection
