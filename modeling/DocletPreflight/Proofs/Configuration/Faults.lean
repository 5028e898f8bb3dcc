import DocletPreflight.Proofs.Configuration.Fatal
import Mathlib.Data.List.TakeWhile

/-!
# What a check raises

Whatever is wrong with the options, a check reports it, and there is a configuration or none. There are two
exceptions. The encoding is looked up by its name, and the lookup does not answer for every text: a name
that holds half of a surrogate pair has no bytes, and one that holds a null character is refused
(`Encoding.Confounds`). The fault of such a lookup is not reported but passed on. And while taglet classes
are loaded, an error of theirs may escape (`Build.TagletsEscape`), unless they are in order. These are all
the faults that come out of a check (`build_raises_iff_escapes`).
-/

set_option autoImplicit false

namespace DocletPreflight

/-! ## Halves of surrogate pairs -/

namespace Text

/-- The first half of a surrogate pair decides where a text cannot be encoded. -/
theorem unencodable?_append {before rest : List Nat} {code : Nat}
    (hbefore : ∀ c ∈ before, isSurrogate c = false) (hcode : isSurrogate code = true) :
    unencodable? (fun _ => false) (before ++ code :: rest) =
      some ⟨code, before.length, (rest.takeWhile isSurrogate).length + 1⟩ := by
  have hdrop : (before ++ code :: rest).dropWhile (fun c => !isSurrogate c) = code :: rest := by
    rw [List.dropWhile_append_of_pos (fun c hc => by simp [hbefore c hc]),
      List.dropWhile_cons_of_neg (by simp [hcode])]
  simp [unencodable?, hdrop]

/-- A text without halves of surrogate pairs can be encoded. -/
theorem unencodable?_eq_none {cs : List Nat} (h : ∀ c ∈ cs, isSurrogate c = false) :
    unencodable? (fun _ => false) cs = none := by
  have hdrop : cs.dropWhile (fun c => !isSurrogate c) = [] :=
    List.dropWhile_eq_nil_iff.mpr (by simpa using h)
  simp [unencodable?, hdrop]

/-- Among some code points there are no halves of surrogate pairs, or there is a first one. -/
theorem exists_first_surrogate_or (cs : List Nat) :
    (∀ c ∈ cs, isSurrogate c = false) ∨
      ∃ before code rest, cs = before ++ code :: rest ∧ (∀ c ∈ before, isSurrogate c = false) ∧
        isSurrogate code = true := by
  cases hfind : cs.find? isSurrogate with
  | none => exact .inl (by simpa using List.find?_eq_none.mp hfind)
  | some code =>
    obtain ⟨hcode, before, rest, hsplit, hbefore⟩ := List.find?_eq_some_iff_append.mp hfind
    exact .inr ⟨before, code, rest, hsplit, by simpa using hbefore, hcode⟩

end Text

/-! ## Names that cannot be looked up -/

namespace Encoding

/-- A name that the lookup has no answer for, and its fault: the first halves of surrogate pairs in the name,
and if there are none of them, a null character. -/
inductive Confounds (name : String) : Fault → Prop where
  | half {before rest : List Nat} {code : Nat} (hcodes : Text.codes name = before ++ code :: rest)
      (hbefore : ∀ c ∈ before, Text.isSurrogate c = false) (hcode : Text.isSurrogate code = true) :
      Confounds name (.unencodable ⟨code, before.length, (rest.takeWhile Text.isSurrogate).length + 1⟩)
  | nul (hwhole : ∀ c ∈ Text.codes name, Text.isSurrogate c = false) (hnul : '\x00' ∈ name.toList) :
      Confounds name .embeddedNul

variable {name : String} {fault : Fault}

/-- What a confounding name leads to is not that the encoding is unknown. -/
theorem Confounds.ne_unknown (h : Confounds name fault) : fault ≠ .unknown := by
  cases h <;> exact nofun

/-- A confounding name is not empty. -/
theorem Confounds.ne_empty (h : Confounds name fault) : name ≠ "" := by
  rintro rfl
  cases h with
  | half hcodes hbefore hcode =>
    have hnil : Text.codes "" = [] := rfl
    simp [hnil] at hcodes
  | nul hwhole hnul => simp at hnul

/-- Looking up a confounding name fails by its fault. -/
theorem Confounds.lookup_eq (h : Confounds name fault) : lookup name = .error fault := by
  cases h with
  | half hcodes hbefore hcode =>
    have hunencodable := hcodes ▸ Text.unencodable?_append hbefore hcode
    simp only [lookup, hunencodable]
  | nul hwhole hnul =>
    have hcontains : name.toList.contains '\x00' = true := List.contains_iff_mem.mpr hnul
    simp only [lookup, Text.unencodable?_eq_none hwhole, hcontains]

/-- A name is looked up, or it is that of no encoding, or it cannot be looked up. -/
theorem lookup_cases (name : String) :
    (∃ canonical, lookup name = .ok canonical) ∨ lookup name = .error .unknown ∨
      ∃ fault, Confounds name fault := by
  rcases Text.exists_first_surrogate_or (Text.codes name) with
    hwhole | ⟨before, code, rest, hcodes, hbefore, hcode⟩
  · by_cases hnul : '\x00' ∈ name.toList
    · exact .inr (.inr ⟨_, .nul hwhole hnul⟩)
    · have hcontains : name.toList.contains '\x00' = false := by simpa using hnul
      simp only [lookup, Text.unencodable?_eq_none hwhole, hcontains]
      split
      · exact .inl ⟨_, rfl⟩
      · exact .inr (.inl rfl)
  · exact .inr (.inr ⟨_, .half hcodes hbefore hcode⟩)

end Encoding

/-! ## Checks -/

/-- The fault that comes out of a check: there is an output directory, and the first name that is asked for
as the encoding cannot be looked up. -/
structure Build.Escapes (m : OptionMatrix) (fault : Encoding.Fault) : Prop where
  directory : ¬m.Lacks Flag.directory.text
  encoding : ∃ name, m.first? Flag.encoding.text = some name ∧ Encoding.Confounds name fault

variable {m : OptionMatrix} {fault : Encoding.Fault}

/-- What escapes ends a check in whatever environment, and nothing is reported but the directory. -/
theorem build_of_escapes (h : Build.Escapes m fault) :
    ∃ text, m.first? Flag.directory.text = some text ∧
      ∀ env, build env Encoding.lookup m =
        ⟨.error (.encoding fault), .reporting [.notice ("Output directory: " ++ text)]⟩ := by
  obtain ⟨text, htext, hne⟩ := OptionMatrix.exists_of_not_lacks h.directory
  obtain ⟨name, hname, hconfounds⟩ := h.encoding
  refine ⟨text, htext, fun env => ?_⟩
  exact build_of_encoding_fault (Build.directory_of_value htext hne)
    (Build.encoding_of_fault hname hconfounds.ne_empty hconfounds.lookup_eq hconfounds.ne_unknown)

/-- Unless something escapes, the encoding that a check asks for is known, or it is known to be none. -/
theorem lookup_of_not_escapes (hnone : ∀ fault, ¬Build.Escapes m fault)
    (hfatal : ¬Build.Fatal Encoding.lookup m) (name : String)
    (hname : m.first? Flag.encoding.text = some name) :
    (∃ canonical, Encoding.lookup name = .ok canonical) ∨ Encoding.lookup name = .error .unknown := by
  rcases Encoding.lookup_cases name with hknown | hunknown | ⟨fault, hconfounds⟩
  · exact .inl hknown
  · exact .inr hunknown
  · have hdirectory := mt (Build.fatal_of_directory_lacks Encoding.lookup) hfatal
    exact absurd ⟨hdirectory, name, hname, hconfounds⟩ (hnone fault)

/-- What comes out of a check in place of an answer: the fault of the encoding, or else, when there is no
fatal problem either, an error that escapes while taglet classes are loaded. -/
inductive Build.Raises (env : Environment) (m : OptionMatrix) : BuildFault → Prop where
  | encoding {fault : Encoding.Fault} (hescapes : Build.Escapes m fault) : Raises env m (.encoding fault)
  | taglets {e : ForeignError} (hfatal : ¬Build.Fatal Encoding.lookup m)
      (hnone : ∀ fault, ¬Build.Escapes m fault) (hescapes : Build.TagletsEscape env m e) :
      Raises env m (.taglets e)

variable {env : Environment}

/-- Without a fatal problem or a fault of the encoding, a check comes to the loading of taglet classes. -/
theorem build_of_not_escapes (env : Environment) (hfatal : ¬Build.Fatal Encoding.lookup m)
    (hnone : ∀ fault, ¬Build.Escapes m fault) :
    ∃ notices, (∀ d ∈ notices, d.channel = .notice) ∧
      (∀ e, Build.TagletsEscape env m e → build env Encoding.lookup m =
        ⟨.error (.taglets e), .reporting notices ++ Build.laterTrace env m⟩) ∧
      ((∀ e, ¬Build.TagletsEscape env m e) → ∃ c, build env Encoding.lookup m =
        ⟨.ok (some c), .reporting notices ++ Build.laterTrace env m⟩) :=
  build_of_not_fatal (fun name hname _ => lookup_of_not_escapes hnone hfatal name hname) env hfatal

/-- What a check raises comes out of it. -/
theorem Build.Raises.configuration_eq {fault : BuildFault} (h : Build.Raises env m fault) :
    (build env Encoding.lookup m).configuration = .error fault := by
  cases h with
  | encoding hescapes =>
    obtain ⟨text, -, hbuild⟩ := build_of_escapes hescapes
    rw [hbuild]
  | taglets hfatal hnone hescapes =>
    obtain ⟨notices, -, hraises, -⟩ := build_of_not_escapes env hfatal hnone
    rw [hraises _ hescapes]

/-- Nothing else comes out of a check in place of an answer. -/
theorem raises_of_build {fault : BuildFault}
    (h : (build env Encoding.lookup m).configuration = .error fault) : Build.Raises env m fault := by
  by_cases hencoding : ∃ other, Build.Escapes m other
  · obtain ⟨other, hescapes⟩ := hencoding
    have hraises : Build.Raises env m (.encoding other) := .encoding hescapes
    cases h.symm.trans hraises.configuration_eq
    exact hraises
  · by_cases hfatal : Build.Fatal Encoding.lookup m
    · obtain ⟨notices, ds, -, -, hbuild⟩ := build_of_fatal hfatal
      rw [hbuild] at h
      cases h
    · by_cases htaglets : ∃ e, Build.TagletsEscape env m e
      · obtain ⟨e, hescapes⟩ := htaglets
        have hraises : Build.Raises env m (.taglets e) := .taglets hfatal (not_exists.mp hencoding) hescapes
        cases h.symm.trans hraises.configuration_eq
        exact hraises
      · obtain ⟨notices, -, -, hmakes⟩ := build_of_not_escapes env hfatal (not_exists.mp hencoding)
        obtain ⟨c, hbuild⟩ := hmakes (not_exists.mp htaglets)
        rw [hbuild] at h
        cases h

/-- A check raises a fault just when there is an output directory and the encoding has a name that cannot be
looked up, which goes unreported; or when an error escapes while taglet classes are loaded, and none does when
what can be loaded is in order. In every other case the check answers: after a fatal problem there is no
configuration, and the problem is reported in an error or two; otherwise there is a configuration. -/
theorem build_raises_iff_escapes (env : Environment) (m : OptionMatrix) :
    (∀ fault, (build env Encoding.lookup m).configuration = .error fault ↔ Build.Raises env m fault) ∧
    (∀ fault, Build.Escapes m fault → ∃ text, m.first? Flag.directory.text = some text ∧
      (build env Encoding.lookup m).trace = .reporting [.notice ("Output directory: " ++ text)]) ∧
    (env.Orderly → ∀ e, ¬Build.TagletsEscape env m e) ∧
    (Build.Fatal Encoding.lookup m → ∃ notices ds, Build.AtMostDirectory m notices ∧
      Build.IsFailure ds ∧ build env Encoding.lookup m = ⟨.ok none, .reporting (notices ++ ds)⟩) ∧
    (¬Build.Fatal Encoding.lookup m → (∀ fault, ¬Build.Escapes m fault) →
      ∃ notices, (∀ d ∈ notices, d.channel = .notice) ∧
        (build env Encoding.lookup m).trace = .reporting notices ++ Build.laterTrace env m ∧
        ((∀ e, ¬Build.TagletsEscape env m e) →
          ∃ c, (build env Encoding.lookup m).configuration = .ok (some c))) := by
  refine ⟨fun fault => ⟨raises_of_build, Build.Raises.configuration_eq⟩, ?_, ?_, ?_, ?_⟩
  · intro fault hescapes
    obtain ⟨text, htext, hbuild⟩ := build_of_escapes hescapes
    exact ⟨text, htext, by rw [hbuild]⟩
  · intro horderly e
    exact Build.not_tagletsEscape_of_orderly horderly m e
  · intro h
    obtain ⟨notices, ds, hnotices, hds, hbuild⟩ := build_of_fatal h
    exact ⟨notices, ds, hnotices, hds, hbuild env⟩
  · intro hfatal hnone
    obtain ⟨notices, hnotices, htrace⟩ :=
      trace_of_not_fatal (fun name hname _ => lookup_of_not_escapes hnone hfatal name hname) env hfatal
    refine ⟨notices, hnotices, htrace, fun htaglets => ?_⟩
    obtain ⟨_, -, -, hmakes⟩ := build_of_not_escapes env hfatal hnone
    obtain ⟨c, hbuild⟩ := hmakes htaglets
    exact ⟨c, by rw [hbuild]⟩

/-- Options that ask for an encoding by a name with a null character in it. -/
def nulInEncoding : OptionMatrix := [["-d", "out"], ["-docencoding", "utf\x00-8"]]

/-- A check of them answers nothing. -/
theorem nulInEncoding_raises :
    ¬∀ (env : Environment) (m : OptionMatrix),
      ∃ c, (build env Encoding.lookup m).configuration = .ok c := by
  intro h
  have hconfounds : Encoding.Confounds "utf\x00-8" .embeddedNul :=
    .nul (by decide +kernel) (by decide)
  have hescapes : Build.Escapes nulInEncoding .embeddedNul := by
    refine ⟨?_, _, rfl, hconfounds⟩
    rintro (habsent | hempty)
    · cases habsent
    · exact absurd hempty (by decide)
  obtain ⟨text, -, hbuild⟩ := build_of_escapes hescapes
  obtain ⟨c, hc⟩ := h .bare nulInEncoding
  rw [hbuild] at hc
  cases hc

end DocletPreflight
