import DocletPreflight.Proofs.Configuration.Steps

/-!
# When a check fails

A check fails for its output directory or for its encoding, and for nothing else: `Build.Fatal` says so of
the first rows of these two options. Then it has reported the directory at most, and the errors of the
failure; no later step has been taken (`build_of_fatal`). If nothing is fatal there is a configuration
(`build_of_not_fatal`), and errors are those of taglet classes only. `build_fails_iff_fatal` puts these
together.
-/

set_option autoImplicit false

namespace DocletPreflight

open OptionMatrix (IsFirst rowValue?)

/-- A problem that ends a check: there is no row for the output directory, or the first one has no value
or an empty one; or there is a row for the encoding, and the first one has no value, an empty one, or the
name of no encoding. -/
inductive Build.Fatal (lookup : Encoding.Lookup) (m : OptionMatrix) : Prop where
  | directoryAbsent (h : ∀ row ∈ m, row.head? ≠ some Flag.directory.text)
  | directoryEmpty {row : List String} (hrow : m.IsFirst Flag.directory.text row)
      (hvalue : rowValue? row = none ∨ rowValue? row = some "")
  | encodingEmpty {row : List String} (hrow : m.IsFirst Flag.encoding.text row)
      (hvalue : rowValue? row = none ∨ rowValue? row = some "")
  | encodingUnknown {row : List String} {name : String} (hrow : m.IsFirst Flag.encoding.text row)
      (hname : rowValue? row = some name) (hlookup : lookup name = .error .unknown)

variable {env : Environment} {lookup : Encoding.Lookup} {m : OptionMatrix}

namespace Build

/-- A missing output directory is fatal. -/
theorem fatal_of_directory_lacks (lookup : Encoding.Lookup) (h : m.Lacks Flag.directory.text) :
    Fatal lookup m := by
  rcases h with h | h
  · rcases OptionMatrix.first?_eq_none_iff.mp h with habsent | ⟨row, hrow, hvalue⟩
    · exact .directoryAbsent habsent
    · exact .directoryEmpty hrow (.inl hvalue)
  · obtain ⟨row, hrow, hvalue⟩ := OptionMatrix.first?_eq_some_iff.mp h
    exact .directoryEmpty hrow (.inr hvalue)

/-- An encoding option without a value is fatal. -/
theorem fatal_of_encoding_lacks (hhas : m.has Flag.encoding.text = true)
    (h : m.Lacks Flag.encoding.text) : Fatal lookup m := by
  obtain ⟨row, hrow⟩ := OptionMatrix.has_iff.mp hhas
  exact .encodingEmpty hrow (hrow.first?_eq ▸ h)

/-- A fatal problem is one of the directory, or it ends the step of the encoding. -/
theorem directory_or_encoding_of_fatal (h : Fatal lookup m) :
    m.Lacks Flag.directory.text ∨
      ∃ ds, IsFailure ds ∧ encoding lookup m = (.ok none, .reporting ds) := by
  cases h with
  | directoryAbsent h =>
    exact .inl (.inl (OptionMatrix.first?_of_not_has (OptionMatrix.has_eq_false_iff.mpr h)))
  | directoryEmpty hrow hvalue => exact .inl (by rwa [OptionMatrix.Lacks, hrow.first?_eq])
  | encodingEmpty hrow hvalue =>
    have hhas := OptionMatrix.has_iff.mpr ⟨_, hrow⟩
    exact .inr (encoding_of_lacks hhas (by rwa [OptionMatrix.Lacks, hrow.first?_eq]))
  | encodingUnknown hrow hname hlookup =>
    exact .inr (encoding_of_unknown (hrow.first?_eq.trans hname) hlookup)

/-- The notice of the output directory, or nothing. -/
def AtMostDirectory (m : OptionMatrix) (ds : List Diagnostic) : Prop :=
  ds = [] ∨ ∃ text, m.first? Flag.directory.text = some text ∧
    ds = [.notice ("Output directory: " ++ text)]

end Build

/-- A fatal problem ends a check in whatever environment, and all that is reported is the directory at
most and then the failure. -/
theorem build_of_fatal (h : Build.Fatal lookup m) :
    ∃ notices ds, Build.AtMostDirectory m notices ∧ Build.IsFailure ds ∧
      ∀ env, build env lookup m = ⟨.ok none, .reporting (notices ++ ds)⟩ := by
  -- the directory comes first, so the encoding is a matter only where there is one
  by_cases hlacks : m.Lacks Flag.directory.text
  · obtain ⟨ds, hds, hdirectory⟩ := Build.directory_of_lacks hlacks
    exact ⟨[], ds, .inl rfl, hds, fun env => build_of_directory_none hdirectory⟩
  · obtain ⟨ds, hds, hencoding⟩ := (Build.directory_or_encoding_of_fatal h).resolve_left hlacks
    obtain ⟨text, htext, hne⟩ := OptionMatrix.exists_of_not_lacks hlacks
    refine ⟨_, ds, .inr ⟨text, htext, rfl⟩, hds, fun env => ?_⟩
    rw [build_of_encoding_none (Build.directory_of_value htext hne) hencoding]
    rfl

/-- Where a configuration is built, nothing is fatal. -/
theorem not_fatal_of_build {c : Configuration}
    (hc : (build env lookup m).configuration = .ok (some c)) : ¬Build.Fatal lookup m := by
  intro h
  obtain ⟨notices, ds, -, -, hbuild⟩ := build_of_fatal h
  rw [hbuild] at hc
  cases hc

/-! ## Lookups that answer, or know no such name -/

section

variable (hlookup : ∀ name, m.first? Flag.encoding.text = some name → name ≠ "" →
  (∃ canonical, lookup name = .ok canonical) ∨ lookup name = .error .unknown)
include hlookup

/-- Unless something is fatal there is an encoding, and only notices are reported about it. -/
theorem Build.encoding_of_not_fatal (h : ¬Build.Fatal lookup m) :
    ∃ encoding notices, (∀ d ∈ notices, d.channel = .notice) ∧
      Build.encoding lookup m = (.ok (some encoding), .reporting notices) := by
  cases hhas : m.has Flag.encoding.text with
  | false => exact ⟨_, [], by simp, Build.encoding_of_absent hhas⟩
  | true =>
    obtain ⟨name, hname, hne⟩ :=
      OptionMatrix.exists_of_not_lacks (mt (Build.fatal_of_encoding_lacks hhas) h)
    rcases hlookup name hname hne with ⟨canonical, hcanonical⟩ | hunknown
    · refine ⟨_, _, ?_, Build.encoding_of_known hname hne hcanonical⟩
      simp [Diagnostic.notice]
    · obtain ⟨row, hrow, hvalue⟩ := OptionMatrix.first?_eq_some_iff.mp hname
      exact absurd (.encodingUnknown hrow hvalue hunknown) h

/-- Without a fatal problem nothing but notices comes before what the later steps report, and there is a
configuration unless an error escapes from them. -/
theorem build_of_not_fatal (env : Environment) (h : ¬Build.Fatal lookup m) :
    ∃ notices, (∀ d ∈ notices, d.channel = .notice) ∧
      (∀ e, Build.TagletsEscape env m e →
        build env lookup m = ⟨.error (.taglets e), .reporting notices ++ Build.laterTrace env m⟩) ∧
      ((∀ e, ¬Build.TagletsEscape env m e) → ∃ c,
        build env lookup m = ⟨.ok (some c), .reporting notices ++ Build.laterTrace env m⟩) := by
  obtain ⟨text, htext, hne⟩ :=
    OptionMatrix.exists_of_not_lacks (mt (Build.fatal_of_directory_lacks lookup) h)
  obtain ⟨encoding, notices, hnotices, hencoding⟩ := Build.encoding_of_not_fatal hlookup h
  have hdirectory := Build.directory_of_value htext hne
  refine ⟨.notice ("Output directory: " ++ text) :: notices, ?_, ?_, ?_⟩
  · intro d hd
    rcases List.mem_cons.mp hd with rfl | hd
    · rfl
    · exact hnotices d hd
  · intro e hescapes
    exact build_of_taglets_escape hdirectory hencoding (Build.registry_eq_error_iff.mpr hescapes)
  · intro hnone
    cases hregistry : Build.registry env m with
    | ok registry => exact ⟨_, build_of_settled hdirectory hencoding hregistry⟩
    | error e => exact absurd (Build.registry_eq_error_iff.mp hregistry) (hnone e)

/-- Where no configuration is built, something is fatal. -/
theorem fatal_of_build (hnone : (build env lookup m).configuration = .ok none) :
    Build.Fatal lookup m := by
  by_contra h
  obtain ⟨notices, -, hraises, hmakes⟩ := build_of_not_fatal hlookup env h
  by_cases hescapes : ∃ e, Build.TagletsEscape env m e
  · obtain ⟨e, he⟩ := hescapes
    rw [hraises e he] at hnone
    cases hnone
  · obtain ⟨c, hbuild⟩ := hmakes (not_exists.mp hescapes)
    rw [hbuild] at hnone
    cases hnone

/-- What is reported without a fatal problem, whether an error escapes in the end or not. -/
theorem trace_of_not_fatal (env : Environment) (h : ¬Build.Fatal lookup m) :
    ∃ notices, (∀ d ∈ notices, d.channel = .notice) ∧
      (build env lookup m).trace = .reporting notices ++ Build.laterTrace env m := by
  obtain ⟨notices, hnotices, hraises, hmakes⟩ := build_of_not_fatal hlookup env h
  refine ⟨notices, hnotices, ?_⟩
  by_cases hescapes : ∃ e, Build.TagletsEscape env m e
  · obtain ⟨e, he⟩ := hescapes
    rw [hraises e he]
  · obtain ⟨c, hbuild⟩ := hmakes (not_exists.mp hescapes)
    rw [hbuild]

end

/-- A check fails just when there is a fatal problem, and makes a configuration otherwise, unless an error
escapes while taglet classes are loaded; none does when all of them are in order. When it fails,
one notice of the directory at most and then one error or two are all that is reported, and nothing
depends on the classes that could be loaded. When it makes a configuration, each error that is reported
is that of a named taglet class that could not be loaded into the registry as the ones before it left
it. -/
theorem build_fails_iff_fatal (env : Environment) (lookup : Encoding.Lookup) (m : OptionMatrix)
    (hlookup : ∀ name, name ≠ "" →
      (∃ canonical, lookup name = .ok canonical) ∨ lookup name = .error .unknown) :
    ((build env lookup m).configuration = .ok none ↔ Build.Fatal lookup m) ∧
    (¬Build.Fatal lookup m → (∀ e, ¬Build.TagletsEscape env m e) →
      ∃ c, (build env lookup m).configuration = .ok (some c)) ∧
    (env.Orderly → ∀ e, ¬Build.TagletsEscape env m e) ∧
    ((build env lookup m).configuration = .ok none →
      (∃ notices ds, (build env lookup m).trace = .reporting (notices ++ ds) ∧
        Build.AtMostDirectory m notices ∧ Build.IsFailure ds) ∧
      ∀ other, build other lookup m = build env lookup m) ∧
    ∀ c, (build env lookup m).configuration = .ok (some c) →
      ∀ d ∈ (build env lookup m).trace.diagnostics, d.channel = .error →
        ∃ names before name after e, m.first? Flag.taglet.text = some names ∧
          Text.split ':' names = before ++ name :: after ∧
          (env.loadOne name (env.loadAll before
            (Build.withTags (Build.definitions m) Registry.standard)).registry).1 =
              .error (.reason e) ∧
          d = loadDiagnostic (.error e) := by
  have hasked : ∀ name, m.first? Flag.encoding.text = some name → name ≠ "" →
      (∃ canonical, lookup name = .ok canonical) ∨ lookup name = .error .unknown :=
    fun name _ hne => hlookup name hne
  refine ⟨⟨fatal_of_build hasked, ?_⟩, ?_, ?_, ?_, ?_⟩
  · intro h
    obtain ⟨notices, ds, -, -, hbuild⟩ := build_of_fatal h
    rw [hbuild]
  · intro h hnone
    obtain ⟨notices, -, -, hmakes⟩ := build_of_not_fatal hasked env h
    obtain ⟨c, hbuild⟩ := hmakes hnone
    exact ⟨c, by rw [hbuild]⟩
  · intro horderly e
    exact Build.not_tagletsEscape_of_orderly horderly m e
  · intro hnone
    obtain ⟨notices, ds, hnotices, hds, hbuild⟩ := build_of_fatal (fatal_of_build hasked hnone)
    exact ⟨⟨notices, ds, by rw [hbuild], hnotices, hds⟩, fun other => by rw [hbuild, hbuild]⟩
  · intro c hc d hd herror
    obtain ⟨notices, hnotices, htrace⟩ := trace_of_not_fatal hasked env (not_fatal_of_build hc)
    rw [htrace, Trace.diagnostics_append, Trace.diagnostics_reporting, List.mem_append] at hd
    rcases hd with hd | hd
    · rw [hnotices d hd] at herror
      cases herror
    · exact Build.mem_laterTrace_of_error hd herror

/-- A lookup that knows one encoding, by one of its names. -/
def utf8Only : Encoding.Lookup := fun name =>
  if name = "UTF-8" then .ok "utf-8" else .error .unknown

/-- The one encoding is known, and every other name is refused as unknown. -/
theorem utf8Only_total (name : String) (_ : name ≠ "") :
    (∃ canonical, utf8Only name = .ok canonical) ∨ utf8Only name = .error .unknown := by
  unfold utf8Only
  split
  · exact .inl ⟨_, rfl⟩
  · exact .inr rfl

/-- Options whose first encoding is not known, though a later one is. -/
def unknownThenKnown : OptionMatrix :=
  [["-d", "out"], ["-docencoding", "UTF-9"], [], ["-docencoding", "UTF-8"], ["-taglet", "a.B"]]

/-- Options that name two classes, neither of which can be loaded. -/
def classesMissing : OptionMatrix := [["-taglet", "a.B:c.D"], ["-d", "out", "extra"], ["-d"]]

/-- The first of these fail after the notice of the directory. The second make a configuration, though
an error is reported of each class. -/
theorem unknownThenKnown_fails :
    (build .bare utf8Only unknownThenKnown).configuration = .ok none ∧
    (∃ notices ds, (build .bare utf8Only unknownThenKnown).trace = .reporting (notices ++ ds) ∧
      Build.AtMostDirectory unknownThenKnown notices ∧ Build.IsFailure ds) ∧
    (∃ c, (build .bare utf8Only classesMissing).configuration = .ok (some c)) ∧
    ∃ names before name after e, classesMissing.first? Flag.taglet.text = some names ∧
      Text.split ':' names = before ++ name :: after ∧
      (Environment.loadOne .bare name (Environment.loadAll .bare before
        (Build.withTags (Build.definitions classesMissing) Registry.standard)).registry).1 =
          .error (.reason e) ∧
      .error "'-taglet' option reported error - :Class not found: c.D" = loadDiagnostic (.error e) := by
  obtain ⟨hfails, -, -, hreports, -⟩ :=
    build_fails_iff_fatal .bare utf8Only unknownThenKnown utf8Only_total
  obtain ⟨hmakes, hconfigures, horderly, -, herrors⟩ :=
    build_fails_iff_fatal .bare utf8Only classesMissing utf8Only_total
  have hfatal : Build.Fatal utf8Only unknownThenKnown :=
    .encodingUnknown ⟨[["-d", "out"]], _, rfl, rfl, by decide⟩ rfl (by decide +kernel)
  have hnone := hfails.mpr hfatal
  have hsettled : ¬Build.Fatal utf8Only classesMissing := by
    intro h
    have habsurd := hmakes.mpr h
    cases habsurd
  obtain ⟨c, hc⟩ := hconfigures hsettled (horderly Environment.orderly_bare)
  refine ⟨hnone, (hreports hnone).1, ⟨c, hc⟩, ?_⟩
  exact herrors c hc _ (by decide +kernel) rfl

end DocletPreflight
