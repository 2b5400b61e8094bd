import Introspection.Proofs.Metadata.Origin
import Mathlib.Order.Bounds.Basic

/-!
# Names in any letter case

Metadata can be asked for the spelling of a property name that is given in any letter case.  The
question is answered by an index of the names by their upper-case forms (`Metadata.spellings`).
First the readable names are entered and then the writable ones, both in ascending order, and a name
takes the place of whatever has been entered under its upper-case form before.

What is left under a form is therefore the last name entered under it, and in an ascending list the
last one is the greatest: the greatest writable name of this form, or where no writable name has it
the greatest readable one (`Metadata.FindsSpellings`).  `exists_ofClass_findsSpellings` is the main
statement.
-/

namespace Introspection

/-- What is found under a key after values have been entered one after the other, each under its own
key, is the last one of them that has this key, or else what was there before. -/
theorem NameMap.find?_foldl_insert {α : Type} (key : α → String) (values : List α) (m : NameMap α)
    (name : String) :
    (values.foldl (fun m value => m.insert (key value) value) m).find? name =
      (values.reverse.find? fun value => key value == name).or (m.find? name) := by
  induction values generalizing m with
  | nil => rfl
  | cons value values ih =>
    rw [List.foldl_cons, ih, NameMap.find?_insert, List.reverse_cons, List.find?_append,
      Option.or_assoc]
    congr 1
    by_cases heq : key value = name
    · simp [heq]
    · have hne : ¬ name = key value := fun e => heq e.symm
      simp [heq, hne]

/-- The last name of an ascending list that passes a test is the greatest one that passes it. -/
theorem find?_reverse_eq_some_iff_isGreatest {names : List String}
    (hascending : names.Pairwise (· < ·)) {test : String → Bool} {name : String} :
    names.reverse.find? test = some name ↔
      IsGreatest {other | other ∈ names ∧ test other = true} name := by
  -- what the search finds is the greatest one
  have hgreatest : ∀ found, names.reverse.find? test = some found →
      IsGreatest {other | other ∈ names ∧ test other = true} found := by
    intro found hfound
    obtain ⟨htest, after, before, hsplit, hafter⟩ := List.find?_eq_some_iff_append.1 hfound
    have hnames : names = before.reverse ++ found :: after.reverse := by
      rw [← List.reverse_reverse names, hsplit]
      simp
    subst hnames
    obtain ⟨-, -, hbefore⟩ := List.pairwise_append.1 hascending
    refine ⟨⟨by simp, htest⟩, ?_⟩
    rintro other ⟨hother, hpasses⟩
    rcases List.mem_append.1 hother with hearlier | hlater
    · exact Std.le_of_lt (hbefore other hearlier found List.mem_cons_self)
    · rcases List.mem_cons.1 hlater with rfl | hlater
      · exact String.le_refl other
      · have hfails := hafter other (List.mem_reverse.1 hlater)
        rw [hpasses] at hfails
        cases hfails
  refine ⟨hgreatest name, fun hname => ?_⟩
  obtain ⟨found, hfound⟩ : ∃ found, names.reverse.find? test = some found := by
    rw [← Option.isSome_iff_exists, List.find?_isSome]
    exact ⟨name, List.mem_reverse.2 hname.1.1, hname.1.2⟩
  have hbest := hgreatest found hfound
  rw [hfound, String.le_antisymm (hname.2 hbest.1) (hbest.2 hname.1)]

namespace Metadata

variable {m : Metadata} {r : Registry} {id : ClassId} {c : ClassInfo} {q name : String}

/-- The index of the names by their upper-case forms: the readable ones are entered first and the
writable ones after them, each in the place of what has been entered under its form before. -/
def spellings (m : Metadata) : NameMap String :=
  m.writable.foldl (fun index name => index.insert (Text.upper name) name)
    (m.readable.foldl (fun index name => index.insert (Text.upper name) name) .empty)

/-- The names of a list that have the upper-case form of a text. -/
def spelled (names : List String) (q : String) : Set String :=
  {name | name ∈ names ∧ Text.upper name = Text.upper q}

/-- The spelling of a name is looked up as documented. -/
structure FindsSpellings (m : Metadata) : Prop where
  /-- It is what the index has under the upper-case form. -/
  eq_find? : ∀ q, m.canonicalName? q = m.spellings.find? (Text.upper q)
  /-- There is none exactly if no name has this form. -/
  eq_none_iff : ∀ q, m.canonicalName? q = none ↔
    ∀ name, name ∈ m.readable ∨ name ∈ m.writable → Text.upper name ≠ Text.upper q
  /-- It is the greatest writable name of this form, or if there is no such name the greatest
  readable one. -/
  eq_some_iff : ∀ q name, m.canonicalName? q = some name ↔
    IsGreatest (spelled m.writable q) name ∨
      spelled m.writable q = ∅ ∧ IsGreatest (spelled m.readable q) name
  /-- It is the name of a property. -/
  mem_names : ∀ q name, m.canonicalName? q = some name → name ∈ m.readable ∨ name ∈ m.writable
  /-- It is its own spelling. -/
  idempotent : ∀ q name, m.canonicalName? q = some name → m.canonicalName? name = some name
  /-- Texts of one upper-case form have one spelling. -/
  congr : ∀ q q', Text.upper q = Text.upper q' → m.canonicalName? q = m.canonicalName? q'

/-! ### The index -/

/-- The writable names are looked through before the readable ones, both from the last one on. -/
theorem canonicalName?_eq_or (m : Metadata) (q : String) :
    m.canonicalName? q =
      (m.writable.reverse.find? fun name => Text.upper name == Text.upper q).or
        (m.readable.reverse.find? fun name => Text.upper name == Text.upper q) := by
  rw [canonicalName?, List.reverse_append, List.find?_append]

theorem canonicalName?_eq_find?_spellings (m : Metadata) (q : String) :
    m.canonicalName? q = m.spellings.find? (Text.upper q) := by
  rw [canonicalName?_eq_or, spellings, NameMap.find?_foldl_insert, NameMap.find?_foldl_insert,
    NameMap.find?_empty, Option.or_none]

/-! ### The spelling -/

theorem canonicalName?_congr {q' : String} (hupper : Text.upper q = Text.upper q') :
    m.canonicalName? q = m.canonicalName? q' := by
  rw [canonicalName?, canonicalName?, hupper]

theorem canonicalName?_eq_none_iff : m.canonicalName? q = none ↔
    ∀ name, name ∈ m.readable ∨ name ∈ m.writable → Text.upper name ≠ Text.upper q := by
  simp [canonicalName?, or_imp, forall_and, and_comm]

/-- The spelling of a text is a name of a property and has the upper-case form of the text. -/
theorem mem_names_of_canonicalName?_eq_some (hname : m.canonicalName? q = some name) :
    (name ∈ m.readable ∨ name ∈ m.writable) ∧ Text.upper name = Text.upper q := by
  rw [canonicalName?] at hname
  have hmem := List.mem_of_find?_eq_some hname
  rw [List.mem_reverse, List.mem_append] at hmem
  exact ⟨hmem, by simpa using List.find?_some hname⟩

/-- In an ascending list the search from the last name on finds the greatest name of a form. -/
theorem find?_reverse_upper_eq_some_iff {names : List String}
    (hascending : names.Pairwise (· < ·)) :
    (names.reverse.find? fun name => Text.upper name == Text.upper q) = some name ↔
      IsGreatest (spelled names q) name := by
  rw [find?_reverse_eq_some_iff_isGreatest hascending]
  simp only [beq_iff_eq, spelled]

theorem find?_reverse_upper_eq_none_iff {names : List String} :
    (names.reverse.find? fun name => Text.upper name == Text.upper q) = none ↔
      spelled names q = ∅ := by
  simp [spelled, Set.eq_empty_iff_forall_notMem]

/-- Metadata finds spellings as documented, since the names of a table are ascending. -/
theorem findsSpellings (m : Metadata) : m.FindsSpellings where
  eq_find? := m.canonicalName?_eq_find?_spellings
  eq_none_iff _ := canonicalName?_eq_none_iff
  eq_some_iff q name := by
    have hreadable : m.readable.Pairwise (· < ·) := m.getters.accessors.ascending
    have hwritable : m.writable.Pairwise (· < ·) := m.setters.accessors.ascending
    rw [canonicalName?_eq_or, Option.or_eq_some_iff, find?_reverse_upper_eq_some_iff hwritable,
      find?_reverse_upper_eq_none_iff, find?_reverse_upper_eq_some_iff hreadable]
  mem_names _ _ hname := (mem_names_of_canonicalName?_eq_some hname).1
  idempotent _ _ hname :=
    (canonicalName?_congr (mem_names_of_canonicalName?_eq_some hname).2).trans hname
  congr _ _ := canonicalName?_congr

/-- The metadata of every registered class of a reachable registry finds spellings as documented. -/
theorem exists_ofClass_findsSpellings (h : r.Reachable) (hc : r.class? id = some c) :
    ∃ m, ofClass r id = .ok m ∧ m.FindsSpellings := by
  obtain ⟨m, hm⟩ := exists_ofClass_eq_ok h.wellFormed hc
  exact ⟨m, hm, m.findsSpellings⟩

/-- The draft of a class with two fields whose names have one upper-case form, and a constant and a
getter whose names have another. -/
def linkDraft : ClassDraft :=
  ((((ClassDraft.ofKind ⟨7⟩ "Link" .ordinary).withField
    (.named "STRASSE" (.ofClass ⟨1⟩))).withField (.named "straße" (.ofClass ⟨1⟩))).withField
      (.named "URL" (.ofClass ⟨1⟩))).withMethod
        { MethodDraft.named "getUrl" with returnType := .ofClass ⟨1⟩ }

/-- The calls that register the class. -/
def linkCalls : List RegistryCall := [.reserve "Link" .ordinary, .register linkDraft]

/-- Of the two fields the greater name is the spelling, and the writable `URL` is preferred to the
greater `url`, which can only be read. -/
theorem linkCalls_findsSpellings :
    let r := linkCalls.foldl Registry.after .initial
    ∃ m, ofClass r ⟨7⟩ = .ok m ∧ m.FindsSpellings ∧
      m.readable = ["STRASSE", "URL", "straße", "url"] ∧
      m.writable = ["STRASSE", "URL", "straße"] ∧
      m.canonicalName? "Strasse" = some "straße" ∧ m.canonicalName? "url" = some "URL" := by
  intro r
  have hreachable : r.Reachable := Registry.Reachable.initial.foldl (by decide)
  have hregistered : (r.class? ⟨7⟩).isSome = true := by decide +kernel
  have hshown : (ofClass r ⟨7⟩).toOption.map (fun m => (m.readable, m.writable)) =
      some (["STRASSE", "URL", "straße", "url"], ["STRASSE", "URL", "straße"]) := by
    decide +kernel
  obtain ⟨c, hc⟩ := Option.isSome_iff_exists.1 hregistered
  obtain ⟨m, hm, hfinds⟩ := exists_ofClass_findsSpellings hreachable hc
  rw [hm] at hshown
  obtain ⟨hreadable, hwritable⟩ : m.readable = ["STRASSE", "URL", "straße", "url"] ∧
      m.writable = ["STRASSE", "URL", "straße"] := by simpa [Except.toOption] using hshown
  refine ⟨m, hm, hfinds, hreadable, hwritable, ?_, ?_⟩
  · rw [canonicalName?, hreadable, hwritable]
    decide +kernel
  · rw [canonicalName?, hreadable, hwritable]
    decide +kernel

end Metadata

end Introspection
