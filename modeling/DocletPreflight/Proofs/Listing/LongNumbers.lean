import DocletPreflight.Proofs.Listing.Reading

/-!
# Numbers that are too long

A whole number that is too long to be written is a fault where reading a listing comes to it, and nothing
where it does not. The names of the entries are read first, one after another, so such a name shows unless
an entry before it has no name of its own; all other numbers show once every entry is registered
(`ComesToLongNumber`, `ofValue_eq_fault_iff`). With this it is known of every file just when a fault keeps it
from being read, and which one (`read_eq_fault_iff`).
-/

set_option autoImplicit false

namespace DocletPreflight.Listing

open Yaml (Value)

/-- An entry is registered by the text of its name, which is neither empty nor too long. -/
structure IsRegistered (entry : Value) (name : String) : Prop where
  written : (entry.field "name").text? = .ok (some name)
  nonempty : name ≠ ""

/-- Reading some entries comes to a number that is too long to be written. It is the name of an entry, and
those before it are registered under names of their own; or all entries are, and one of them cannot be
read. -/
inductive ComesToLongNumber (es : List Value) : Prop where
  | name {before after : List Value} {entry : Value} {names : List String}
      (hsplit : es = before ++ entry :: after) (hbefore : List.Forall₂ IsRegistered before names)
      (hnodup : names.Nodup) (hlong : (entry.field "name").text? = .error {}) : ComesToLongNumber es
  | reference {entry : Value} {names : List String} (hnamed : List.Forall₂ IsRegistered es names)
      (hnodup : names.Nodup) (hentry : entry ∈ es) (hlong : ¬Legible entry) : ComesToLongNumber es

variable {file : String} {v entry : Value} {es : List Value} {seen names : List String} {f : ReadFault}

/-- An entry is read under a name just when it is registered under it. -/
theorem entryName_eq_ok_iff {name : String} :
    entryName file entry = .ok name ↔ IsRegistered entry name := by
  constructor
  · intro h
    have hcalled := isCalled_of_entryName h
    obtain ⟨text, htext, -⟩ := bind_eq_ok h
    have hread := orTooLong_eq_ok htext
    rw [← Value.written?_of_text? hread, hcalled.written] at hread
    exact ⟨hread, hcalled.nonempty⟩
  · rintro ⟨hread, hne⟩
    simp [entryName, hread, orTooLong, bind, Except.bind]

/-- A name that is a number too long to be written lets an exception escape. -/
theorem entryName_of_long (file : String) (hlong : (entry.field "name").text? = .error {}) :
    entryName file entry = .error (.fault .numberTooLong) := by
  rw [entryName, hlong]
  rfl

/-- Nothing but a name that is too long keeps the name of an entry from being read. -/
theorem long_of_entryName (h : entryName file entry = .error (.fault f)) :
    (entry.field "name").text? = .error {} := by
  cases htext : (entry.field "name").text? with
  | error e => rfl
  | ok text =>
    simp only [entryName, htext, orTooLong, bind, Except.bind] at h
    split at h <;> cases h

/-- A fault of the first round is that of a name behind entries with names of their own. -/
theorem exists_long_of_namesFrom (h : namesFrom file seen es = .error (.fault f)) :
    ∃ before entry after names, es = before ++ entry :: after ∧
      List.Forall₂ IsRegistered before names ∧ names.Nodup ∧ (∀ name ∈ names, name ∉ seen) ∧
      (entry.field "name").text? = .error {} := by
  induction es generalizing seen with
  | nil => cases h
  | cons entry rest ih =>
    rw [namesFrom_cons] at h
    cases hname : entryName file entry with
    | error e =>
      rw [hname] at h
      obtain rfl : e = .fault f := Except.error.inj h
      exact ⟨[], entry, rest, [], rfl, .nil, .nil, by simp, long_of_entryName hname⟩
    | ok name =>
      rw [hname] at h
      simp only [bind, Except.bind] at h
      by_cases hseen : name ∈ seen
      · simp [hseen] at h
      · have hrest : namesFrom file (name :: seen) rest = .error (.fault f) := by
          cases hlater : namesFrom file (name :: seen) rest with
          | error e =>
            simp only [List.contains_eq_mem, hseen, decide_false, Bool.false_eq_true, if_false,
              hlater] at h
            rw [Except.error.inj h]
          | ok later =>
            simp [hseen, hlater] at h
        obtain ⟨before, long, after, names, rfl, hbefore, hnodup, hfresh, hlong⟩ := ih hrest
        have hnot : name ∉ names := fun hmem => hfresh name hmem (by simp)
        refine ⟨entry :: before, long, after, name :: names, rfl,
          .cons (entryName_eq_ok_iff.mp hname) hbefore, List.nodup_cons.mpr ⟨hnot, hnodup⟩, ?_, hlong⟩
        intro other hother
        rcases List.mem_cons.mp hother with rfl | hother
        · exact hseen
        · exact fun hmem => hfresh other hother (by simp [hmem])

/-- The other way round, such a name ends the first round. -/
theorem namesFrom_long {before after : List Value} (file : String)
    (hbefore : List.Forall₂ IsRegistered before names) (hnodup : names.Nodup)
    (hlong : (entry.field "name").text? = .error {}) :
    namesFrom file [] (before ++ entry :: after) = .error (.fault .numberTooLong) := by
  have hnamed : List.Forall₂ (fun entry name => entryName file entry = .ok name) before names :=
    hbefore.imp fun _ _ => entryName_eq_ok_iff.mpr
  rw [namesFrom_append _ hnamed hnodup (by simp), namesFrom_cons, entryName_of_long file hlong]
  rfl

/-- Once all entries are registered, one that cannot be read is a fault. -/
theorem ofValue_of_illegible (file : String) (hnamed : List.Forall₂ IsRegistered (entries v) names)
    (hnodup : names.Nodup) (hentry : entry ∈ entries v) (hlong : ¬Legible entry) :
    ofValue file v = .error (.fault .numberTooLong) := by
  have hentries : List.Forall₂ (fun entry name => entryName file entry = .ok name) (entries v) names :=
    hnamed.imp fun _ _ => entryName_eq_ok_iff.mpr
  have hfirst : namesFrom file [] (entries v) = .ok names := by
    have hfresh : ∀ name ∈ names, name ∉ ([] : List String) := by simp
    have happend := namesFrom_append [] hentries hnodup hfresh
    simpa [namesFrom, bind, Except.bind] using happend
  cases hsecond : linkAll names (entries v) (names.map .unlinked) with
  | error e =>
    obtain rfl := failsOnly_linkAll hfirst e hsecond
    simp only [ofValue, hfirst, hsecond, bind, Except.bind]
  | ok classes =>
    obtain ⟨-, -, ⟨links, hlinks⟩, -⟩ := rounds_of_linkAll hfirst hsecond
    exact absurd (legible_of_rounds hentries hlinks entry hentry) hlong

/-- A value has a fault just when reading it comes to a number that is too long. -/
theorem ofValue_eq_fault_iff :
    ofValue file v = .error (.fault f) ↔ f = .numberTooLong ∧ ComesToLongNumber (entries v) := by
  constructor
  · intro h
    obtain ⟨rfl, entry, hentry, hlong⟩ := exists_not_legible_of_fault h
    refine ⟨rfl, ?_⟩
    cases hfirst : namesFrom file [] (entries v) with
    | error e =>
      rw [ofValue_of_namesFrom hfirst] at h
      rw [Except.error.inj h] at hfirst
      obtain ⟨before, long, after, names, hsplit, hbefore, hnodup, -, hname⟩ :=
        exists_long_of_namesFrom hfirst
      exact .name hsplit hbefore hnodup hname
    | ok names =>
      obtain ⟨hnamed, hnodup, -⟩ := forall₂_of_namesFrom hfirst
      exact .reference (hnamed.imp fun _ _ => entryName_eq_ok_iff.mp) hnodup hentry hlong
  · rintro ⟨rfl, ⟨hsplit, hbefore, hnodup, hlong⟩ | ⟨hnamed, hnodup, hentry, hlong⟩⟩
    · apply ofValue_of_namesFrom
      rw [hsplit]
      exact namesFrom_long file hbefore hnodup hlong
    · exact ofValue_of_illegible file hnamed hnodup hentry hlong

/-! ## Files -/

/-- The fault that keeps a file from being read: what escapes of it in any case, or a number that is too long
and that reading comes to. -/
inductive Breaks (tree : FileTree) (workingDirectory : List String) (p : NormalPath) :
    ReadFault → Prop where
  | escape {f : ReadFault} (h : Escapes tree workingDirectory p f) (hshort : f ≠ .numberTooLong) :
      Breaks tree workingDirectory p f
  | numberTooLong {text : List Char} {v : Value}
      (hfile : tree.read workingDirectory p = .ok (text.flatMap String.utf8EncodeChar))
      (hload : Yaml.load (Text.unifyLineEnds text) depth = .ok v)
      (hlong : ComesToLongNumber (entries v)) : Breaks tree workingDirectory p .numberTooLong

variable {tree other : FileTree} {workingDirectory : List String} {p : NormalPath}

/-- A fault depends on a file through what can be read of it. -/
theorem Breaks.of_read (h : Breaks tree workingDirectory p f)
    (hread : ∀ bytes, tree.read workingDirectory p = .ok bytes → other.read workingDirectory p = .ok bytes) :
    Breaks other workingDirectory p f := by
  cases h with
  | escape hescapes hshort =>
    cases hescapes with
    | path hpath => exact .escape (.path hpath) hshort
    | notUtf8 hfile hbytes hfault => exact .escape (.notUtf8 (hread _ hfile) hbytes hfault) hshort
    | scalar hfile hload hform => exact .escape (.scalar (hread _ hfile) hload hform) hshort
    | numberTooLong => exact absurd rfl hshort
  | numberTooLong hfile hload hlong => exact .numberTooLong (hread _ hfile) hload hlong

/-- A fault keeps a file from being read just when there is a cause for it. -/
theorem read_eq_fault_iff :
    read tree workingDirectory p = .error (.fault f) ↔ Breaks tree workingDirectory p f := by
  constructor
  · intro h
    have hescapes := escapes_of_read h
    by_cases hshort : f = .numberTooLong
    · subst hshort
      cases hescapes with
      | @numberTooLong text v entry hfile hload hentry hlong =>
        rw [read_of_load hfile hload] at h
        exact .numberTooLong hfile hload (ofValue_eq_fault_iff.mp h).2
    · exact .escape hescapes hshort
  · rintro (⟨hescapes, hshort⟩ | ⟨hfile, hload, hlong⟩)
    · exact hescapes.read_eq.resolve_right fun h => hshort h.1
    · rw [read_of_load hfile hload]
      exact ofValue_eq_fault_iff.mpr ⟨rfl, hlong⟩

/-- A file that the operating system refuses is no fault. -/
theorem not_breaks_of_refused {reason : FileRefusal} {path : String}
    (h : tree.read workingDirectory p = .error (.refused reason path)) :
    ¬Breaks tree workingDirectory p f := by
  intro hbreaks
  have hrejected : read tree workingDirectory p =
      .error (.rejected (.unreadable p.text (FileError.refused reason path).message)) := by
    apply read_of_failure
    simp only [readValue, h]
  rw [read_eq_fault_iff.mpr hbreaks] at hrejected
  cases hrejected

end DocletPreflight.Listing
