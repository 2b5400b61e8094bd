import Introspection.Config.Decode
import Introspection.Proofs.Registry.WellFormed
import Mathlib

/-!
# Applying configurations

`Config.apply` answers with a new store or with an error, so it has no means to leave a store that
is changed in part.  A procedure that changes a store in place has them: the permissions of single
classes are set one after the other, and each time this may be refused.  `Config.applyInPlace` is
this procedure, and it comes to the same (`applyInPlace_eq`), because no class of the configuration
is sealed when the first permission is set, and setting permissions seals no class
(`writeClasses_eq`).

A configuration can be applied exactly if all its texts are permissions, its names are those of
registered classes and none of these is sealed (`Applicable`).  The store then has the permissions
of the configuration and is otherwise as it was (`Puts`).  All of this is `apply_all_or_nothing`.
-/

namespace Introspection

/-- The permission of a class that is not sealed can be set. -/
theorem PermissionStore.setClass?_of_isSealed_eq_false {store : PermissionStore} {id : ClassId}
    (hopen : store.isSealed id = false) (p : Permission) :
    store.setClass? id p = some { store with classes := store.classes.insert id p } := by
  simp [setClass?, hopen]

/-- Trying to set the permission of a class changes at most the entry of that class. -/
theorem PermissionStore.getD_setClass?_frame (store : PermissionStore) (id : ClassId)
    (p : Permission) :
    ((store.setClass? id p).getD store).globalDefault = store.globalDefault ∧
      ((store.setClass? id p).getD store).sealedClasses = store.sealedClasses ∧
        ∀ other, id ≠ other →
          ((store.setClass? id p).getD store).classes.find? other = store.classes.find? other := by
  unfold setClass?
  split
  · exact ⟨rfl, rfl, fun _ _ => rfl⟩
  · exact ⟨rfl, rfl, fun other hne => Assoc.find?_insert_of_ne _ _ hne.symm⟩

namespace Config

variable {r : Registry} {c : Config} {store store' : PermissionStore}

/-! ### Reading -/

theorem permission_eq_ok_iff {text : String} {p : Permission} :
    permission text = .ok p ↔ Permission.parseCombined? text = some p := by
  unfold permission
  split <;> simp_all

theorem entry_eq_ok_iff {e : String × String} {id : ClassId} {p : Permission} :
    entry r e = .ok (id, p) ↔ r.find? e.1 = some id ∧ Permission.parseCombined? e.2 = some p := by
  unfold entry
  split
  · next id' hid =>
    rw [Except.map_eq_ok_iff, hid]
    simp [permission_eq_ok_iff, and_comm]
  · next hnone => simp [hnone]

/-- An entry fails if there is no class of its name, or its text is no permission. -/
theorem entry_eq_error {e : String × String} {error : ReflectionError}
    (herror : entry r e = .error error) :
    (error = .unknownName e.1 ∧ r.find? e.1 = none) ∨ Permission.parseCombined? e.2 = none := by
  unfold entry at herror
  split at herror
  · right
    unfold permission at herror
    split at herror
    · cases herror
    · next hnone => exact hnone
  · next hnone =>
    cases herror
    exact .inl ⟨rfl, hnone⟩

/-- A configuration is valid if all its texts are permissions. -/
theorem validate_eq_ok_iff : c.validate = .ok () ↔
    (∃ p, Permission.parseCombined? c.globalPermission = some p) ∧
      ∀ e ∈ c.classPermissions.entries, ∃ p, Permission.parseCombined? e.2 = some p := by
  unfold validate
  simp only [Except.bind_eq_ok_iff, permission_eq_ok_iff]
  constructor
  · rintro ⟨global, hglobal, permissions, hpermissions, -⟩
    refine ⟨⟨global, hglobal⟩, fun e he => ?_⟩
    obtain ⟨p, -, hp⟩ := Except.exists_mem_of_mapM_eq_ok hpermissions he
    exact ⟨p, permission_eq_ok_iff.1 hp⟩
  · rintro ⟨⟨global, hglobal⟩, hentries⟩
    obtain ⟨permissions, hpermissions⟩ : ∃ permissions,
        c.classPermissions.entries.mapM (fun e => permission e.2) = .ok permissions := by
      refine Except.exists_mapM_eq_ok fun e he => ?_
      obtain ⟨p, hp⟩ := hentries e he
      exact ⟨p, permission_eq_ok_iff.2 hp⟩
    exact ⟨global, hglobal, permissions, hpermissions, rfl⟩

/-! ### Writing -/

/-- Setting permissions of single classes changes the entries of these classes alone. -/
theorem setClasses_frame (store : PermissionStore) (entries : List (ClassId × Permission)) :
    (setClasses store entries).globalDefault = store.globalDefault ∧
      (setClasses store entries).sealedClasses = store.sealedClasses ∧
        ∀ id, (∀ e ∈ entries, e.1 ≠ id) →
          (setClasses store entries).classes.find? id = store.classes.find? id := by
  induction entries generalizing store with
  | nil => exact ⟨rfl, rfl, fun _ _ => rfl⟩
  | cons e entries ih =>
    obtain ⟨hglobal, hsealed, hother⟩ := ih ((store.setClass? e.1 e.2).getD store)
    obtain ⟨hglobal', hsealed', hother'⟩ := store.getD_setClass?_frame e.1 e.2
    refine ⟨hglobal.trans hglobal', hsealed.trans hsealed', fun id hid => ?_⟩
    have hrest : ∀ e' ∈ entries, e'.1 ≠ id := fun e' he' => hid e' (List.mem_cons_of_mem _ he')
    exact (hother id hrest).trans (hother' id (hid e List.mem_cons_self))

/-- Where no class occurs twice and none is sealed, each class has its permission afterwards. -/
theorem find?_setClasses_of_mem {entries : List (ClassId × Permission)}
    (hopen : ∀ e ∈ entries, store.isSealed e.1 = false)
    (hdistinct : entries.Pairwise fun e e' => e.1 ≠ e'.1) {e : ClassId × Permission}
    (he : e ∈ entries) : (setClasses store entries).classes.find? e.1 = some e.2 := by
  induction entries generalizing store with
  | nil => cases he
  | cons first entries ih =>
    obtain ⟨hfirst, hrest⟩ := List.pairwise_cons.1 hdistinct
    have hset := PermissionStore.setClass?_of_isSealed_eq_false
      (hopen first List.mem_cons_self) first.2
    rw [show setClasses store (first :: entries) =
      setClasses ((store.setClass? first.1 first.2).getD store) entries from rfl, hset]
    rcases List.mem_cons.1 he with rfl | he
    · have hkept := (setClasses_frame
        { store with classes := store.classes.insert e.1 e.2 } entries).2.2 e.1
      exact (hkept fun e' he' => (hfirst e' he').symm).trans (Assoc.find?_insert_self _ _ _)
    · exact ih (fun e' he' => hopen e' (List.mem_cons_of_mem _ he')) hrest he

/-! ### In place -/

/-- Sets the permissions of single classes in a store, one after the other.  The first class that is
sealed ends it, and leaves what has been set till then. -/
def writeClasses (store : PermissionStore) :
    List (ClassId × Permission) → Except ReflectionError Unit × PermissionStore
  | [] => (.ok (), store)
  | e :: entries =>
    match store.setClass? e.1 e.2 with
    | some store => writeClasses store entries
    | none => (.error (.permissionsSealed e.1), store)

/-- Puts the permissions of the configuration into a store that is changed in place: what has been
written is not taken back when a later step fails. -/
def applyInPlace (c : Config) (r : Registry) (store : PermissionStore) :
    Except ReflectionError Unit × PermissionStore :=
  match permission c.globalPermission, c.classPermissions.entries.mapM (entry r) with
  | .error e, _ => (.error e, store)
  | .ok _, .error e => (.error e, store)
  | .ok global, .ok entries =>
    match entries.find? fun e => store.isSealed e.1 with
    | some e => (.error (.permissionsSealed e.1), store)
    | none => writeClasses (store.setGlobal global) entries

/-- If no class is sealed at the start, none is when its turn comes. -/
theorem writeClasses_eq {entries : List (ClassId × Permission)}
    (hopen : ∀ e ∈ entries, store.isSealed e.1 = false) :
    writeClasses store entries = (.ok (), setClasses store entries) := by
  induction entries generalizing store with
  | nil => rfl
  | cons e entries ih =>
    have hset := PermissionStore.setClass?_of_isSealed_eq_false (hopen e List.mem_cons_self) e.2
    have hrest : ∀ e' ∈ entries,
        PermissionStore.isSealed { store with classes := store.classes.insert e.1 e.2 } e'.1 =
          false := fun e' he' => hopen e' (List.mem_cons_of_mem _ he')
    simp only [writeClasses, hset, ih hrest]
    simp [setClasses, hset]

/-- A store that is changed in place ends as the store that `apply` answers with, and if there is
none it ends as it began. -/
theorem applyInPlace_eq (c : Config) (r : Registry) (store : PermissionStore) :
    c.applyInPlace r store =
      match c.apply r store with
      | .ok store' => (.ok (), store')
      | .error e => (.error e, store) := by
  unfold applyInPlace apply
  cases permission c.globalPermission with
  | error e => rfl
  | ok global =>
    cases c.classPermissions.entries.mapM (entry r) with
    | error e => rfl
    | ok entries =>
      cases hfind : entries.find? fun e => store.isSealed e.1 with
      | some e => simp [bind, Except.bind, hfind]
      | none =>
        -- the check comes before the first write, which seals no class
        have hopen : ∀ e ∈ entries, (store.setGlobal global).isSealed e.1 = false := by
          intro e he
          exact Bool.eq_false_iff.2 (List.find?_eq_none.1 hfind e he)
        simp [bind, Except.bind, pure, Except.pure, hfind, writeClasses_eq hopen]

/-! ### All or nothing -/

/-- Everything that the configuration needs: its texts are permissions, its names are those of
registered classes, and these are not sealed. -/
structure Applicable (c : Config) (r : Registry) (store : PermissionStore) : Prop where
  /-- The text for all classes is a permission. -/
  global : ∃ p, Permission.parseCombined? c.globalPermission = some p
  /-- So are the texts for single classes. -/
  permission : ∀ {name text}, c.classPermissions.find? name = some text →
    ∃ p, Permission.parseCombined? text = some p
  /-- The names are those of registered classes. -/
  registered : ∀ {name text}, c.classPermissions.find? name = some text →
    ∃ id info, r.class? id = some info ∧ info.name = name
  /-- None of these classes is sealed. -/
  unsealed : ∀ {name text}, c.classPermissions.find? name = some text →
    ∀ {id info}, r.class? id = some info → info.name = name → store.isSealed id = false

/-- The second store has the permissions of the configuration, and is otherwise like the first. -/
structure Puts (c : Config) (r : Registry) (store store' : PermissionStore) : Prop where
  /-- All classes have the permission of the configuration. -/
  globalDefault : Permission.parseCombined? c.globalPermission = some store'.globalDefault
  /-- So has each class that it names. -/
  named : ∀ {name text}, c.classPermissions.find? name = some text →
    ∀ {id info}, r.class? id = some info → info.name = name →
      ∃ p, Permission.parseCombined? text = some p ∧ store'.classes.find? id = some p
  /-- Every other class, registered or not, has the entry that it had, or none as before. -/
  other : ∀ {id}, (∀ info, r.class? id = some info → c.classPermissions.find? info.name = none) →
    store'.classes.find? id = store.classes.find? id
  /-- The same classes are sealed. -/
  sealedClasses : store'.sealedClasses = store.sealedClasses

theorem apply_eq_ok_iff : c.apply r store = .ok store' ↔ ∃ global entries,
    Permission.parseCombined? c.globalPermission = some global ∧
      c.classPermissions.entries.mapM (entry r) = .ok entries ∧
        (∀ e ∈ entries, store.isSealed e.1 = false) ∧
          setClasses (store.setGlobal global) entries = store' := by
  unfold apply
  simp only [Except.bind_eq_ok_iff, permission_eq_ok_iff]
  refine exists_congr fun global => ?_
  rw [exists_and_left]
  refine and_congr_right fun _ => exists_congr fun entries => and_congr_right fun _ => ?_
  cases hfind : entries.find? fun e => store.isSealed e.1 with
  | some e =>
    have hsealed : store.isSealed e.1 = true := by simpa using List.find?_some hfind
    have hmem : e ∈ entries := List.mem_of_find?_eq_some hfind
    constructor
    · intro h
      cases h
    · rintro ⟨hopen, -⟩
      rw [hopen e hmem] at hsealed
      cases hsealed
  | none =>
    have hopen : ∀ e ∈ entries, store.isSealed e.1 = false := fun e he =>
      Bool.eq_false_iff.2 (List.find?_eq_none.1 hfind e he)
    rw [and_iff_right hopen]
    constructor
    · intro h
      cases h
      rfl
    · rintro rfl
      rfl

/-- Each name of a configuration whose entries can all be read gives a class and a permission. -/
theorem exists_mem_of_find? {entries : List (ClassId × Permission)}
    (hentries : c.classPermissions.entries.mapM (entry r) = .ok entries) {name text : String}
    (hfind : c.classPermissions.find? name = some text) :
    ∃ id p, (id, p) ∈ entries ∧ r.find? name = some id ∧
      Permission.parseCombined? text = some p := by
  obtain ⟨⟨id, p⟩, he, heq⟩ :=
    Except.exists_mem_of_mapM_eq_ok hentries (NameMap.find?_eq_some_iff.1 hfind)
  exact ⟨id, p, he, entry_eq_ok_iff.1 heq⟩

/-- The entries of an applicable configuration have a class and a permission each, and the class is
not sealed. -/
theorem Applicable.exists_entry_eq_ok (h : c.Applicable r store) (hr : r.WellFormed)
    {e : String × String} (he : e ∈ c.classPermissions.entries) :
    ∃ id p, entry r e = .ok (id, p) ∧ store.isSealed id = false := by
  have hfind : c.classPermissions.find? e.1 = some e.2 := NameMap.find?_eq_some_iff.2 he
  obtain ⟨p, hp⟩ := h.permission hfind
  obtain ⟨id, info, hclass, hname⟩ := h.registered hfind
  have hid : r.find? e.1 = some id := hr.find?_iff.2 ⟨info, hclass, hname⟩
  exact ⟨id, p, entry_eq_ok_iff.2 ⟨hid, hp⟩, h.unsealed hfind hclass hname⟩

/-- An applicable configuration can be applied. -/
theorem Applicable.exists_apply_eq_ok (h : c.Applicable r store) (hr : r.WellFormed) :
    ∃ store', c.apply r store = .ok store' := by
  obtain ⟨global, hglobal⟩ := h.global
  obtain ⟨entries, hentries⟩ : ∃ entries,
      c.classPermissions.entries.mapM (entry r) = .ok entries := by
    refine Except.exists_mapM_eq_ok fun e he => ?_
    obtain ⟨id, p, hentry, -⟩ := h.exists_entry_eq_ok hr he
    exact ⟨_, hentry⟩
  refine ⟨_, apply_eq_ok_iff.2 ⟨global, entries, hglobal, hentries, fun e he => ?_, rfl⟩⟩
  obtain ⟨named, hnamed, heq⟩ := Except.exists_of_mem_mapM_eq_ok hentries he
  obtain ⟨id, p, hentry, hopen⟩ := h.exists_entry_eq_ok hr hnamed
  rw [hentry] at heq
  cases heq
  exact hopen

/-- A configuration that has been applied was applicable. -/
theorem applicable_of_apply (hr : r.WellFormed) (happly : c.apply r store = .ok store') :
    c.Applicable r store := by
  obtain ⟨global, entries, hglobal, hentries, hopen, -⟩ := apply_eq_ok_iff.1 happly
  refine ⟨⟨global, hglobal⟩, fun hfind => ?_, fun hfind => ?_, fun hfind id info hclass hname => ?_⟩
  · obtain ⟨id, p, -, -, hp⟩ := exists_mem_of_find? hentries hfind
    exact ⟨p, hp⟩
  · obtain ⟨id, p, -, hid, -⟩ := exists_mem_of_find? hentries hfind
    exact ⟨id, hr.find?_iff.1 hid⟩
  · obtain ⟨id', p, hmem, hid, -⟩ := exists_mem_of_find? hentries hfind
    have hid' : r.find? _ = some id := hr.find?_iff.2 ⟨info, hclass, hname⟩
    cases hid.symm.trans hid'
    exact hopen _ hmem

/-- No class occurs twice among those of a configuration, since no two names are of one class. -/
theorem pairwise_of_mapM_entry (hr : r.WellFormed) {entries : List (ClassId × Permission)}
    (hentries : c.classPermissions.entries.mapM (entry r) = .ok entries) :
    entries.Pairwise fun e e' => e.1 ≠ e'.1 := by
  have hdistinct : c.classPermissions.entries.Pairwise fun e e' => e.1 ≠ e'.1 :=
    List.pairwise_map.1 (c.classPermissions.ascending.imp String.ne_of_lt)
  refine Except.pairwise_of_mapM_eq_ok hentries hdistinct fun {x x' y y'} hne hy hy' heq => hne ?_
  obtain ⟨c, hc, hname⟩ := hr.find?_iff.1 (entry_eq_ok_iff.1 hy).1
  obtain ⟨c', hc', hname'⟩ := hr.find?_iff.1 (entry_eq_ok_iff.1 hy').1
  rw [heq, hc'] at hc
  cases hc
  exact hname.symm.trans hname'

/-- A configuration that has been applied puts its permissions into the store, and nothing else. -/
theorem puts_of_apply (hr : r.WellFormed) (happly : c.apply r store = .ok store') :
    c.Puts r store store' := by
  obtain ⟨global, entries, hglobal, hentries, hopen, rfl⟩ := apply_eq_ok_iff.1 happly
  obtain ⟨hglobalDefault, hsealed, hother⟩ := setClasses_frame (store.setGlobal global) entries
  have hopen : ∀ e ∈ entries, (store.setGlobal global).isSealed e.1 = false := hopen
  have hdistinct := pairwise_of_mapM_entry hr hentries
  refine ⟨?_, ?_, ?_, hsealed⟩
  · rw [hglobalDefault]
    exact hglobal
  · intro name text hfind id info hclass hname
    obtain ⟨id', p, he, hid, hp⟩ := exists_mem_of_find? hentries hfind
    have hid' : r.find? name = some id := hr.find?_iff.2 ⟨info, hclass, hname⟩
    cases hid.symm.trans hid'
    exact ⟨p, hp, find?_setClasses_of_mem hopen hdistinct he⟩
  · intro id hunnamed
    refine hother id ?_
    rintro ⟨id', p⟩ he rfl
    obtain ⟨named, hnamed, heq⟩ := Except.exists_of_mem_mapM_eq_ok hentries he
    obtain ⟨info, hclass, hname⟩ := hr.find?_iff.1 (entry_eq_ok_iff.1 heq).1
    have hfind := NameMap.find?_eq_some_iff.2 hnamed
    rw [← hname, hunnamed info hclass] at hfind
    cases hfind

/-- A valid configuration fails only for one of its names, if there is no class of this name, or for
a class that is sealed. -/
theorem error_of_validate (hvalid : c.validate = .ok ()) {e : ReflectionError}
    (herror : c.apply r store = .error e) :
    (∃ name ∈ c.classPermissions.names, e = .unknownName name ∧ r.find? name = none) ∨
      ∃ id, e = .permissionsSealed id ∧ store.isSealed id = true := by
  obtain ⟨⟨global, hglobal⟩, htexts⟩ := validate_eq_ok_iff.1 hvalid
  unfold apply at herror
  rw [permission_eq_ok_iff.2 hglobal] at herror
  cases hentries : c.classPermissions.entries.mapM (entry r) with
  | error e' =>
    rw [hentries] at herror
    cases herror
    obtain ⟨named, hnamed, heq⟩ := Except.exists_of_mapM_eq_error hentries
    obtain ⟨p, hp⟩ := htexts named hnamed
    rcases entry_eq_error heq with hunknown | hnone
    · exact .inl ⟨_, List.mem_map.2 ⟨named, hnamed, rfl⟩, hunknown⟩
    · rw [hp] at hnone
      cases hnone
  | ok entries =>
    rw [hentries] at herror
    cases hfind : entries.find? fun e => store.isSealed e.1 with
    | none => simp [bind, Except.bind, pure, Except.pure, hfind] at herror
    | some e' =>
      have hsealed : store.isSealed e'.1 = true := by simpa using List.find?_some hfind
      simp only [bind, Except.bind, hfind] at herror
      cases herror
      exact .inr ⟨_, rfl, hsealed⟩

/-- A configuration that is read from a text is valid. -/
theorem validate_of_ofText {text : String} (htext : ofText text = .ok c) :
    c.validate = .ok () := by
  unfold ofText at htext
  split at htext
  · cases htext
  · obtain ⟨_, hvalid, rfl⟩ := Except.map_eq_ok_iff.1 htext
    exact hvalid

/-- Applying a configuration, or making a cache as it wants it, does all or nothing.  Either the
configuration is applicable, and then the store has its permissions and is otherwise as it was; or
it is not applicable, and then the whole store is as it was.  This is so when the store is changed
in place, step by step.  If the configuration is valid, as one from a text is
(`validate_of_ofText`), it fails for one of its names, of which there is no class, or for a sealed
class. -/
theorem apply_all_or_nothing (hr : r.Reachable) (c : Config) (store : PermissionStore) :
    (c.Applicable r store ∧ ∃ store', c.applyInPlace r store = (.ok (), store') ∧
      c.Puts r store store' ∧ c.apply r store = .ok store' ∧
        MetadataCache.ofConfig r c store =
          .ok ((MetadataCache.ofRegistry r).setEnabled c.cacheEnabled, store')) ∨
    (¬ c.Applicable r store ∧ ∃ e, c.applyInPlace r store = (.error e, store) ∧
      c.apply r store = .error e ∧ MetadataCache.ofConfig r c store = .error e ∧
        (c.validate = .ok () →
          (∃ name ∈ c.classPermissions.names, e = .unknownName name ∧ r.find? name = none) ∨
            ∃ id, e = .permissionsSealed id ∧ store.isSealed id = true)) := by
  have hwell : r.WellFormed := hr.wellFormed
  have hinPlace := c.applyInPlace_eq r store
  cases happly : c.apply r store with
  | ok store' =>
    rw [happly] at hinPlace
    have hcache : MetadataCache.ofConfig r c store =
        .ok ((MetadataCache.ofRegistry r).setEnabled c.cacheEnabled, store') := by
      rw [MetadataCache.ofConfig, happly]
      rfl
    exact .inl ⟨applicable_of_apply hwell happly, store', hinPlace,
      puts_of_apply hwell happly, rfl, hcache⟩
  | error e =>
    rw [happly] at hinPlace
    have hnot : ¬ c.Applicable r store := by
      intro happlicable
      obtain ⟨store', hok⟩ := happlicable.exists_apply_eq_ok hwell
      rw [happly] at hok
      cases hok
    have hcache : MetadataCache.ofConfig r c store = .error e := by
      rw [MetadataCache.ofConfig, happly]
      rfl
    exact .inr ⟨hnot, e, hinPlace, rfl, hcache, fun hvalid => error_of_validate hvalid happly⟩

/-- A configuration that names two of the first classes. -/
def builtinConfig : Config :=
  ⟨true, "PUBLIC_ONLY", .ofList [("Integer", "READ_ALL"), ("String", "ALL")]⟩

/-- In the first registry the configuration is applied as a whole, and if strings are sealed not at
all: then the class that comes before them gets no permission either. -/
theorem builtinConfig_all_or_nothing :
    (∃ store, builtinConfig.applyInPlace .initial .initial = (.ok (), store) ∧
      builtinConfig.Puts .initial .initial store) ∧
    ∃ e, builtinConfig.applyInPlace .initial (PermissionStore.initial.sealClass ⟨1⟩) =
        (.error e, PermissionStore.initial.sealClass ⟨1⟩) ∧
      ((∃ name ∈ builtinConfig.classPermissions.names, e = .unknownName name ∧
          Registry.initial.find? name = none) ∨
        ∃ id, e = .permissionsSealed id ∧
          (PermissionStore.initial.sealClass ⟨1⟩).isSealed id = true) := by
  have hvalid : builtinConfig.validate = .ok () := by cbv
  have hopen : (builtinConfig.apply .initial .initial).isOk = true := by cbv
  have hsealed : (builtinConfig.apply .initial (PermissionStore.initial.sealClass ⟨1⟩)).isOk =
      false := by cbv
  constructor
  · obtain ⟨-, store, hinPlace, hputs, -⟩ | ⟨-, e, -, herror, -⟩ :=
      apply_all_or_nothing .initial builtinConfig .initial
    · exact ⟨store, hinPlace, hputs⟩
    · rw [herror] at hopen
      cases hopen
  · obtain ⟨-, store, -, -, hok, -⟩ | ⟨-, e, hinPlace, -, -, herror⟩ :=
      apply_all_or_nothing .initial builtinConfig (PermissionStore.initial.sealClass ⟨1⟩)
    · rw [hok] at hsealed
      cases hsealed
    · exact ⟨e, hinPlace, herror hvalid⟩

end Config

end Introspection
