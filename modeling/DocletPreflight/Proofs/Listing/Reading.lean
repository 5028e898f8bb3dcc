import DocletPreflight.Proofs.Command.Stages
import DocletPreflight.Proofs.Listing.Acceptance
import DocletPreflight.Proofs.Text.Decoding
import DocletPreflight.Proofs.Yaml.Loading

/-!
# Listings that are not read

A listing that is not read is rejected, in the words of a `ListingError`, unless one of four things is
wrong (`Escapes`): the path is none, the bytes of the file are not UTF-8, the text has no value although
it breaks no rule of YAML, or an entry has a number that is too long to be written. The first three always
show, each as a fault of its own, and nothing is read with the last one. The filter command has words and
an exit status for a rejection and for nothing else, so a fault is the end of its run (`read_by_cause`).
-/

set_option autoImplicit false

namespace DocletPreflight

namespace Listing

open Yaml (Value)

/-! ## Values -/

/-- What keeps a value from being a listing: it is rejected, or a number is too long to be written. -/
inductive Refused : ListingFailure → Prop where
  | rejected (e : ListingError) : Refused (.rejected e)
  | numberTooLong : Refused (.fault .numberTooLong)

/-- What keeps entries from having names of their own. -/
inductive Unnamed (file : String) : ListingFailure → Prop where
  | nameless : Unnamed file (.rejected (.nameless file))
  | duplicate (name : String) : Unnamed file (.rejected (.duplicate file name))
  | numberTooLong : Unnamed file (.fault .numberTooLong)

/-- Entries without names of their own keep a value from being a listing. -/
theorem Unnamed.refused {file : String} {e : ListingFailure} (h : Unnamed file e) : Refused e := by
  cases h with
  | nameless => exact .rejected _
  | duplicate name => exact .rejected _
  | numberTooLong => exact .numberTooLong

/-- A text fails only if it is that of a number too long to be written. -/
theorem failsOnly_orTooLong {α : Type} (x : Except Yaml.NumberTooLong α) :
    FailsOnly (· = .fault .numberTooLong) (orTooLong x) := by
  cases x with
  | ok a => exact .ok a
  | error e => exact .error rfl

/-- Reading the name of an entry fails only for want of a name of its own. -/
theorem failsOnly_entryName (file : String) (entry : Value) :
    FailsOnly (Unnamed file) (entryName file entry) := by
  have htext : FailsOnly (Unnamed file) (orTooLong (entry.field "name").text?) :=
    (failsOnly_orTooLong _).mono fun e he => he ▸ .numberTooLong
  unfold entryName
  apply FailsOnly.bind htext
  intro text
  split
  · exact .error .nameless
  · exact .error .nameless
  · exact .ok _

/-- Reading the names of entries fails only for want of names of their own. -/
theorem failsOnly_namesFrom (file : String) (seen : List String) (es : List Value) :
    FailsOnly (Unnamed file) (namesFrom file seen es) := by
  induction es generalizing seen with
  | nil => exact .ok []
  | cons entry rest ih =>
    rw [namesFrom_cons]
    apply FailsOnly.bind (failsOnly_entryName file entry)
    intro name
    split
    · exact .error (.duplicate name)
    · apply FailsOnly.bind (ih (name :: seen))
      intro names
      exact .ok _

/-- Reading what an entry refers to fails only for a number too long to be written. -/
theorem failsOnly_linksOf (names : List String) (entry : Value) :
    FailsOnly (· = .fault .numberTooLong) (linksOf names entry) := by
  unfold linksOf superclassName
  apply FailsOnly.bind
  · apply FailsOnly.bind (failsOnly_orTooLong _)
    intro text
    split <;> exact .ok _
  intro superclass
  apply FailsOnly.bind (failsOnly_orTooLong _)
  intro interfaces
  apply FailsOnly.bind (failsOnly_orTooLong _)
  intro annotations
  exact .ok _

/-- Every entry finds the class again that was registered for it, so only its links can fail. -/
theorem failsOnly_linkAll {file : String} {names : List String} {es : List Value}
    (hfirst : namesFrom file [] es = .ok names) :
    FailsOnly (· = .fault .numberTooLong) (linkAll names es (names.map .unlinked)) := by
  obtain ⟨hnamed, hnodup, -⟩ := forall₂_of_namesFrom hfirst
  have hlink := linkAll_eq hnodup [] [] rfl rfl hnamed
  rw [List.nil_append] at hlink
  rw [hlink]
  apply FailsOnly.bind (.mapM (failsOnly_linksOf names) _)
  intro links
  exact .ok _

/-- Reading a value fails only if it is refused. -/
theorem failsOnly_ofValue (file : String) (v : Value) : FailsOnly Refused (ofValue file v) := by
  cases hfirst : namesFrom file [] (entries v) with
  | error e =>
    rw [ofValue_of_namesFrom hfirst]
    exact .error (failsOnly_namesFrom file [] _ e hfirst).refused
  | ok names =>
    have hsecond : FailsOnly Refused (linkAll names (entries v) (names.map .unlinked)) :=
      (failsOnly_linkAll hfirst).mono fun e he => he ▸ .numberTooLong
    rw [ofValue, hfirst]
    change FailsOnly Refused (linkAll names (entries v) (names.map .unlinked) >>= _)
    apply FailsOnly.bind hsecond
    intro classes
    split
    · exact .error (.rejected _)
    · exact .ok _

/-- A fault of a value is a number that is too long, in an entry that cannot be read. -/
theorem exists_not_legible_of_fault {file : String} {v : Value} {f : ReadFault}
    (h : ofValue file v = .error (.fault f)) :
    f = .numberTooLong ∧ ∃ entry ∈ entries v, ¬Legible entry := by
  have hrefused := failsOnly_ofValue file v _ h
  refine ⟨by cases hrefused; rfl, ?_⟩
  by_contra hnone
  have hlegible : ∀ entry ∈ entries v, Legible entry := by
    intro entry hentry
    by_contra hlong
    exact hnone ⟨entry, hentry, hlong⟩
  rcases accepted_or_rejected file hlegible with ⟨l, hl⟩ | ⟨e, he⟩
  · rw [h] at hl
    cases hl
  · rw [h] at he
    cases he

/-! ## Files -/

/-- What keeps a listing from being read in a way that no rejection tells: the path is none, the bytes of
the file are not UTF-8, the text cannot be loaded although it breaks no rule of the format, or an entry of
its value has a number that is too long to be written. -/
inductive Escapes (tree : FileTree) (workingDirectory : List String) (p : NormalPath) :
    ReadFault → Prop where
  | path {fault : PathFault} (hpath : p.fault? = some fault) : Escapes tree workingDirectory p (.path fault)
  | notUtf8 {bytes : List UInt8} {fault : Text.Utf8Fault}
      (hfile : tree.read workingDirectory p = .ok bytes) (hbytes : ¬bytes.toByteArray.IsValidUTF8)
      (hfault : Text.decodeUtf8 bytes = .error fault) : Escapes tree workingDirectory p (.notUtf8 fault)
  | scalar {text : List Char} {e : Yaml.Error}
      (hfile : tree.read workingDirectory p = .ok (text.flatMap String.utf8EncodeChar))
      (hload : Yaml.load (Text.unifyLineEnds text) depth = .error e) (hform : e ≠ .malformed) :
      Escapes tree workingDirectory p (.scalar e)
  | numberTooLong {text : List Char} {v entry : Value}
      (hfile : tree.read workingDirectory p = .ok (text.flatMap String.utf8EncodeChar))
      (hload : Yaml.load (Text.unifyLineEnds text) depth = .ok v) (hentry : entry ∈ entries v)
      (hlong : ¬Legible entry) : Escapes tree workingDirectory p .numberTooLong

variable {tree : FileTree} {workingDirectory : List String} {p : NormalPath}

/-- A file that holds a value is read as that value is. -/
theorem read_of_value {v : Value} (h : readValue tree workingDirectory p = .ok v) :
    read tree workingDirectory p = ofValue p.lastName v := by
  rw [read, h]
  rfl

/-- A file that holds no value fails as a listing for the same reason. -/
theorem read_of_failure {e : ListingFailure} (h : readValue tree workingDirectory p = .error e) :
    read tree workingDirectory p = .error e := by
  rw [read, h]
  rfl

/-- A file whose bytes encode a text has the value of that text. -/
theorem readValue_of_text {text : List Char}
    (hfile : tree.read workingDirectory p = .ok (text.flatMap String.utf8EncodeChar)) :
    readValue tree workingDirectory p = valueOf p text := by
  simp only [readValue, hfile, Text.decodeUtf8_eq_ok_iff.mpr rfl]

/-- A file whose text is loaded is read as the listing of its value. -/
theorem read_of_load {text : List Char} {v : Value}
    (hfile : tree.read workingDirectory p = .ok (text.flatMap String.utf8EncodeChar))
    (hload : Yaml.load (Text.unifyLineEnds text) depth = .ok v) :
    read tree workingDirectory p = ofValue p.lastName v := by
  have hvalue := readValue_of_text hfile
  rw [valueOf, hload] at hvalue
  exact read_of_value hvalue

/-- A file that is not encoded in UTF-8 lets an exception escape. -/
theorem readValue_of_not_utf8 {bytes : List UInt8} {fault : Text.Utf8Fault}
    (hfile : tree.read workingDirectory p = .ok bytes)
    (hfault : Text.decodeUtf8 bytes = .error fault) :
    readValue tree workingDirectory p = .error (.fault (.notUtf8 fault)) := by
  simp only [readValue, hfile, hfault]

/-- A path with a fault cannot be read from. -/
theorem read_of_path {fault : PathFault} (h : p.fault? = some fault) :
    tree.read workingDirectory p = .error (.unusable fault) := by
  simp only [FileTree.read, h]

/-- A file is unusable only by the fault of its path. -/
theorem fault_of_read {fault : PathFault} (h : tree.read workingDirectory p = .error (.unusable fault)) :
    p.fault? = some fault := by
  unfold FileTree.read at h
  split at h
  next fault' hfault =>
    cases h
    exact hfault
  · split at h <;> cases h

/-- A value is read, or the listing is rejected, or something escapes. -/
theorem readValue_cases (tree : FileTree) (workingDirectory : List String) (p : NormalPath) :
    (∃ text v, tree.read workingDirectory p = .ok (text.flatMap String.utf8EncodeChar) ∧
      Yaml.load (Text.unifyLineEnds text) depth = .ok v ∧
      readValue tree workingDirectory p = .ok v) ∨
    (∃ e, readValue tree workingDirectory p = .error (.rejected e)) ∨
    ∃ f, Escapes tree workingDirectory p f ∧ readValue tree workingDirectory p = .error (.fault f) := by
  cases hfile : tree.read workingDirectory p with
  | error e =>
    cases e with
    | refused reason path => exact .inr (.inl ⟨_, by simp only [readValue, hfile]; rfl⟩)
    | unusable fault =>
      exact .inr (.inr ⟨.path fault, .path (fault_of_read hfile), by simp only [readValue, hfile]⟩)
  | ok bytes =>
    cases hdecode : Text.decodeUtf8 bytes with
    | error fault =>
      have hbytes : ¬bytes.toByteArray.IsValidUTF8 := Text.exists_fault_iff.mp ⟨fault, hdecode⟩
      have hescapes : Escapes tree workingDirectory p (.notUtf8 fault) := .notUtf8 hfile hbytes hdecode
      exact .inr (.inr ⟨_, hescapes, readValue_of_not_utf8 hfile hdecode⟩)
    | ok text =>
      obtain rfl := Text.decodeUtf8_eq_ok_iff.mp hdecode
      rw [readValue_of_text hfile, valueOf]
      cases hload : Yaml.load (Text.unifyLineEnds text) depth with
      | ok v => exact .inl ⟨text, v, rfl, hload, rfl⟩
      | error e =>
        by_cases hform : e = .malformed
        · subst hform
          exact .inr (.inl ⟨_, rfl⟩)
        · refine .inr (.inr ⟨.scalar e, .scalar hfile hload hform, ?_⟩)
          cases e <;> first | rfl | exact absurd rfl hform

/-- A file is read as a listing, it is rejected, or one of the causes lets an exception escape. -/
theorem read_cases (tree : FileTree) (workingDirectory : List String) (p : NormalPath) :
    (∃ l, read tree workingDirectory p = .ok l) ∨
    (∃ e, read tree workingDirectory p = .error (.rejected e)) ∨
    ∃ f, Escapes tree workingDirectory p f ∧ read tree workingDirectory p = .error (.fault f) := by
  rcases readValue_cases tree workingDirectory p with
    ⟨text, v, hfile, hload, hvalue⟩ | ⟨e, he⟩ | ⟨f, hf, hfault⟩
  · rw [read_of_value hvalue]
    cases hlisting : ofValue p.lastName v with
    | ok l => exact .inl ⟨l, rfl⟩
    | error failure =>
      cases failure with
      | rejected e => exact .inr (.inl ⟨e, rfl⟩)
      | fault f =>
        obtain ⟨rfl, entry, hentry, hlong⟩ := exists_not_legible_of_fault hlisting
        exact .inr (.inr ⟨_, .numberTooLong hfile hload hentry hlong, rfl⟩)
  · exact .inr (.inl ⟨e, read_of_failure he⟩)
  · exact .inr (.inr ⟨f, hf, read_of_failure hfault⟩)

/-- Where an exception escapes, one of the causes is there. -/
theorem escapes_of_read {f : ReadFault} (h : read tree workingDirectory p = .error (.fault f)) :
    Escapes tree workingDirectory p f := by
  rcases read_cases tree workingDirectory p with ⟨l, hl⟩ | ⟨e, he⟩ | ⟨f', hf', hfault⟩
  · rw [h] at hl
    cases hl
  · rw [h] at he
    cases he
  · rw [h] at hfault
    cases hfault
    exact hf'

/-- What escapes is told as the fault that it is, except that a number that is too long may not be come to:
then the listing is rejected. -/
theorem Escapes.read_eq {f : ReadFault} (h : Escapes tree workingDirectory p f) :
    read tree workingDirectory p = .error (.fault f) ∨
      f = .numberTooLong ∧ ∀ l, read tree workingDirectory p ≠ .ok l := by
  cases h with
  | path hpath =>
    have hfile : tree.read workingDirectory p = .error (.unusable _) := read_of_path hpath
    exact .inl (read_of_failure (by simp only [readValue, hfile]))
  | notUtf8 hfile hbytes hfault => exact .inl (read_of_failure (readValue_of_not_utf8 hfile hfault))
  | @scalar text e hfile hload hform =>
    refine .inl (read_of_failure ?_)
    rw [readValue_of_text hfile, valueOf, hload]
    cases e <;> first | rfl | exact absurd rfl hform
  | numberTooLong hfile hload hentry hlong =>
    refine .inr ⟨rfl, fun l hl => ?_⟩
    rw [read_of_load hfile hload] at hl
    exact hlong (legible_of_ofValue hl _ hentry)

end Listing

/-! ## Runs -/

/-- How a run of the filter command ends, by what reading its listing comes to. -/
def Listing.ending : Except ListingFailure Listing → Ending
  | .ok _ => .exit 0
  | .error (.rejected _) => .exit 1
  | .error (.fault f) => .crash (.listing f)

/-- A filter with a configuration ends as the reading of its listing does. -/
theorem ending_of_conclude {built : BuildResult} {c : Configuration} {console : String} {s : Session}
    {p : NormalPath} (hbuild : built.configuration = .ok (some c)) :
    (conclude (.filter (.path p)) built console s).ending =
      Listing.ending (Listing.read s.files s.workingDirectory p) := by
  simp only [conclude, hbuild, Command.perform]
  split
  next l hread => rw [hread]; rfl
  next e hread => rw [hread]; rfl
  next f hread => rw [hread]; rfl

namespace Listing

/-- What reading a listing comes to, cause by cause, and what becomes of a run that reads it. -/
structure ReadByCause (tree : FileTree) (workingDirectory : List String) (p : NormalPath) : Prop where
  outcome : (∃ l, read tree workingDirectory p = .ok l) ∨
    (∃ e, read tree workingDirectory p = .error (.rejected e)) ∨
    ∃ f, Escapes tree workingDirectory p f ∧ read tree workingDirectory p = .error (.fault f)
  refused : ∀ reason path, tree.read workingDirectory p = .error (.refused reason path) →
    read tree workingDirectory p =
      .error (.rejected (.unreadable p.text (FileError.refused reason path).message))
  malformed : ∀ text : List Char,
    tree.read workingDirectory p = .ok (text.flatMap String.utf8EncodeChar) →
    Yaml.load (Text.unifyLineEnds text) depth = .error .malformed →
    read tree workingDirectory p =
      .error (.rejected (.unreadable p.text Yaml.Error.malformed.message))
  escapes : ∀ f, Escapes tree workingDirectory p f → f ≠ .numberTooLong →
    read tree workingDirectory p = .error (.fault f)
  scalarCause : ∀ e, read tree workingDirectory p = .error (.fault (.scalar e)) →
    ∃ text : List Char, tree.read workingDirectory p = .ok (text.flatMap String.utf8EncodeChar) ∧
      Yaml.Unloadable (Text.unifyLineEnds text) e
  tooLong : Escapes tree workingDirectory p .numberTooLong → ∀ l, read tree workingDirectory p ≠ .ok l
  filterRun : ∀ env lookup arguments s request m c,
    Request.parse (splitDocletArguments arguments).1 = .ok request →
    request.command = .filter (.path p) → (request.configureLog s).1 = .ok () →
    OptionMatrix.group (splitDocletArguments arguments).2 = .ok m →
    (build env lookup m).configuration = .ok (some c) →
    (run env lookup arguments s).2.files = tree →
    (run env lookup arguments s).2.workingDirectory = workingDirectory →
    (run env lookup arguments s).1.ending = ending (read tree workingDirectory p)

/-- Reading a listing answers it, or rejects it in the words of a listing error, or one of four things
escapes, each for its own cause: a path that is none, bytes that are not UTF-8, a text that has no value
although it breaks no rule of the format, and a number that is too long to be written. A file that the
system refuses and a text that breaks a rule are rejected. The filter command ends with status 1 for a
rejection, and as it is for what escapes. -/
theorem read_by_cause (tree : FileTree) (workingDirectory : List String) (p : NormalPath) :
    ReadByCause tree workingDirectory p where
  outcome := read_cases tree workingDirectory p
  refused reason path hfile := by
    apply read_of_failure
    simp only [readValue, hfile]
  malformed text hfile hload := by
    apply read_of_failure
    rw [readValue_of_text hfile, valueOf, hload]
  escapes f hf hshort := by
    rcases hf.read_eq with hread | ⟨hlong, -⟩
    · exact hread
    · exact absurd hlong hshort
  scalarCause e hread := by
    cases escapes_of_read hread with
    | scalar hfile hload hform => exact ⟨_, hfile, Yaml.failsOnly_load _ depth e hload⟩
  tooLong hf := by
    rcases hf.read_eq with hread | ⟨-, hnone⟩
    · intro l hl
      rw [hread] at hl
      cases hl
    · exact hnone
  filterRun env lookup arguments s request m c hparse hcommand hlog hgroup hbuild hfiles hdirectory := by
    subst hfiles hdirectory
    rw [run_of_group hparse hlog env lookup hgroup, hcommand]
    exact ending_of_conclude hbuild

/-- A directory with a listing of one byte, which no text has. -/
def strayByteSession : Session :=
  .start [] "" (FileTree.empty.put ["classes.yml"] (.file [0xFF]))

/-- The arguments that ask for the classes of that listing. -/
def strayByteArguments : List String := ["filter", "--model", "classes.yml", "--", "-d", "out"]

/-- The run ends with the fault of the byte. -/
theorem strayByte_escapes :
    Escapes strayByteSession.files [] (.parse "classes.yml") (.notUtf8 ⟨0xFF, 0, 1, .invalidStart⟩) ∧
      (run .bare Encoding.lookup strayByteArguments strayByteSession).1.ending =
        .crash (.listing (.notUtf8 ⟨0xFF, 0, 1, .invalidStart⟩)) := by
  have hfile : strayByteSession.files.read [] (.parse "classes.yml") = .ok [0xFF] := by decide +kernel
  have hfault : Text.decodeUtf8 [0xFF] = .error ⟨0xFF, 0, 1, .invalidStart⟩ := by decide +kernel
  have hescapes : Escapes strayByteSession.files [] (.parse "classes.yml")
      (.notUtf8 ⟨0xFF, 0, 1, .invalidStart⟩) :=
    .notUtf8 hfile (Text.exists_fault_iff.mp ⟨_, hfault⟩) hfault
  have hread := read_by_cause strayByteSession.files [] (.parse "classes.yml")
  refine ⟨hescapes, ?_⟩
  have hparse : Request.parse (splitDocletArguments strayByteArguments).1 =
      .ok ⟨false, none, .filter (.path (.parse "classes.yml"))⟩ := by decide +kernel
  have hgroup : OptionMatrix.group (splitDocletArguments strayByteArguments).2 = .ok [["-d", "out"]] := by
    decide +kernel
  have hbuild : (build .bare Encoding.lookup [["-d", "out"]]).configuration =
      .ok (some (.make (.parse "out") false false "utf-8" "xmldoclet.xml" ⟨none, none, none⟩
        .standard)) := rfl
  rw [hread.filterRun .bare Encoding.lookup strayByteArguments strayByteSession _ _ _ hparse rfl rfl hgroup
    hbuild (by decide +kernel) (by decide +kernel), hread.escapes _ hescapes (by simp)]
  rfl

/-- Not every file is read or rejected: that of one byte is neither. -/
theorem strayByte_neither_read_nor_rejected :
    ¬∀ tree workingDirectory p, (∃ l, read tree workingDirectory p = .ok l) ∨
      ∃ e, read tree workingDirectory p = .error (.rejected e) := by
  intro h
  have hread : read strayByteSession.files [] (.parse "classes.yml") =
      .error (.fault (.notUtf8 ⟨0xFF, 0, 1, .invalidStart⟩)) := by decide +kernel
  rcases h strayByteSession.files [] (.parse "classes.yml") with ⟨l, hl⟩ | ⟨e, he⟩
  · rw [hread] at hl
    cases hl
  · rw [hread] at he
    cases he

end Listing

end DocletPreflight
