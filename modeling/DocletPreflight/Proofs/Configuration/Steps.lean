import DocletPreflight.Proofs.Configuration.Shape
import DocletPreflight.Proofs.Loading.Accounting

/-!
# The steps of a check

Two steps of a check can end it: the output directory, and the encoding if there is one to look at. Each
of them either has what it needs and says so in a notice, or fails with one error or two
(`Build.IsFailure`). The steps after them report no errors, except that loading taglet classes does for
each class that is not loaded (`Build.mem_laterTrace_of_error`); and none of them raises an error, except that
one may escape from there (`Build.TagletsEscape`). Strung together they are the whole check
(`build_of_directory_none`, `build_of_encoding_none`, `build_of_settled`).
-/

set_option autoImplicit false

namespace DocletPreflight

variable {env : Environment} {lookup : Encoding.Lookup} {m : OptionMatrix}

/-! ## Loading -/

/-- Only a name that was not loaded is reported as an error. -/
theorem eq_error_of_channel {outcome : Except LoadError TagletClass}
    (h : (loadDiagnostic outcome).channel = .error) : ∃ e, outcome = .error e := by
  cases outcome with
  | ok c => cases h
  | error e => exact ⟨e, rfl⟩

namespace Build

/-- What is reported of a fatal problem: one error, or one and another that explains it. -/
structure IsFailure (ds : List Diagnostic) : Prop where
  length : ds.length = 1 ∨ ds.length = 2
  channel : ∀ d ∈ ds, d.channel = .error

/-- A single error is a failure. -/
theorem isFailure_single (text : String) : IsFailure [.error text] :=
  ⟨.inl rfl, by simp [Diagnostic.error]⟩

/-- Two errors are a failure. -/
theorem isFailure_pair (first second : String) : IsFailure [.error first, .error second] :=
  ⟨.inr rfl, by simp [Diagnostic.error]⟩

/-! ## The output directory -/

/-- Without a value for it, the output directory fails. -/
theorem directory_of_lacks (h : m.Lacks Flag.directory.text) :
    ∃ ds, IsFailure ds ∧ directory m = (none, .reporting ds) := by
  unfold directory
  split
  · rcases h with h | h
    all_goals
      rw [h]
      exact ⟨_, isFailure_pair _ _, rfl⟩
  · exact ⟨_, isFailure_single _, rfl⟩

/-- A value that is not empty is the output directory, and a notice says so. -/
theorem directory_of_value {text : String} (h : m.first? Flag.directory.text = some text)
    (hne : text ≠ "") :
    directory m =
      (some (NormalPath.parse text), .reporting [.notice ("Output directory: " ++ text)]) := by
  unfold directory
  rw [if_pos (OptionMatrix.has_of_first? h), h]
  split
  next heq => cases heq
  next heq => exact absurd (Option.some.inj heq) hne
  next heq =>
    cases heq
    rfl

/-! ## The encoding -/

/-- Without the option, the default encoding is used and nothing is reported. -/
theorem encoding_of_absent (h : m.has Flag.encoding.text = false) :
    encoding lookup m = (.ok (some Configuration.defaultEncoding), []) := by
  unfold encoding
  rw [h]
  rfl

/-- An encoding option without a value fails. -/
theorem encoding_of_lacks (hhas : m.has Flag.encoding.text = true) (h : m.Lacks Flag.encoding.text) :
    ∃ ds, IsFailure ds ∧ encoding lookup m = (.ok none, .reporting ds) := by
  unfold encoding
  rw [if_pos hhas]
  rcases h with h | h
  all_goals
    rw [h]
    exact ⟨_, isFailure_pair _ _, rfl⟩

/-- A known encoding is used by its canonical name, and a notice says so. -/
theorem encoding_of_known {name canonical : String}
    (h : m.first? Flag.encoding.text = some name) (hne : name ≠ "")
    (hlookup : lookup name = .ok canonical) :
    encoding lookup m =
      (.ok (some canonical), .reporting [.notice ("Output encoding: " ++ canonical)]) := by
  unfold encoding
  rw [if_pos (OptionMatrix.has_of_first? h), h]
  split
  next heq => cases heq
  next heq => exact absurd (Option.some.inj heq) hne
  next heq =>
    cases heq
    rw [hlookup]

/-- An unknown encoding fails. -/
theorem encoding_of_unknown {name : String} (h : m.first? Flag.encoding.text = some name)
    (hlookup : lookup name = .error .unknown) :
    ∃ ds, IsFailure ds ∧ encoding lookup m = (.ok none, .reporting ds) := by
  have hhas := OptionMatrix.has_of_first? h
  by_cases hne : name = ""
  · exact encoding_of_lacks hhas (.inr (hne ▸ h))
  · unfold encoding
    rw [if_pos hhas, h]
    split
    next heq => cases heq
    next heq => exact absurd (Option.some.inj heq) hne
    next heq =>
      cases heq
      rw [hlookup]
      exact ⟨_, isFailure_single _, rfl⟩

/-- A fault of the lookup other than an unknown name is passed on, and nothing is reported of it. -/
theorem encoding_of_fault {name : String} {fault : Encoding.Fault}
    (h : m.first? Flag.encoding.text = some name) (hne : name ≠ "")
    (hlookup : lookup name = .error fault) (hfault : fault ≠ .unknown) :
    encoding lookup m = (.error fault, []) := by
  unfold encoding
  rw [if_pos (OptionMatrix.has_of_first? h), h]
  split
  next heq => cases heq
  next heq => exact absurd (Option.some.inj heq) hne
  next heq =>
    cases heq
    rw [hlookup]
    cases fault <;> first | rfl | exact absurd rfl hfault

/-! ## The steps after them -/

/-- What is reported once there are a directory and an encoding. -/
def laterTrace (env : Environment) (m : OptionMatrix) : Trace :=
  (fileName m).2 ++ (superclass m).2 ++ (annotationType m).2 ++ (interface m).2 ++
    (definitions m).flatMap tagTrace ++
    (taglets env m (withTags (definitions m) Registry.standard)).2

/-- The name of the output file never leads to an error. -/
theorem channel_fileName {d : Diagnostic} (h : d ∈ (fileName m).2.diagnostics) :
    d.channel ≠ .error := by
  unfold fileName at h
  split at h
  · split at h
    · simp_all [Diagnostic.warning]
    · simp_all [Diagnostic.warning]
    · split at h <;> simp_all [Diagnostic.warning, Diagnostic.notice]
  · cases h

/-- A type to filter by never leads to an error. -/
theorem channel_filterType {flag : Flag} {verb what : String} {d : Diagnostic}
    (h : d ∈ (filterType m flag verb what).2.diagnostics) : d.channel ≠ .error := by
  unfold filterType at h
  split at h
  · split at h <;> simp_all [Diagnostic.warning, Diagnostic.notice]
  · cases h

/-- Each tag is reported by one notice, in order. -/
theorem diagnostics_flatMap_tagTrace (ds : List TagDefinition) :
    Trace.diagnostics (ds.flatMap tagTrace) = ds.map fun d => .notice ("Using Tag " ++ d.name) := by
  induction ds with
  | nil => rfl
  | cons d rest ih =>
    rw [List.flatMap_cons, Trace.diagnostics_append, ih]
    rfl

/-- An error among what the later steps report is that of a taglet class that is named, and that could
not be loaded into the registry as the classes before it left it. -/
theorem mem_laterTrace_of_error {d : Diagnostic} (h : d ∈ (laterTrace env m).diagnostics)
    (herror : d.channel = .error) :
    ∃ names before name after e, m.first? Flag.taglet.text = some names ∧
      Text.split ':' names = before ++ name :: after ∧
      (env.loadOne name
        (env.loadAll before (withTags (definitions m) Registry.standard)).registry).1 =
          .error (.reason e) ∧
      d = loadDiagnostic (.error e) := by
  simp only [laterTrace, Trace.diagnostics_append, List.mem_append] at h
  rcases h with ((((h | h) | h) | h) | h) | h
  · exact absurd herror (channel_fileName h)
  · exact absurd herror (channel_filterType h)
  · exact absurd herror (channel_filterType h)
  · exact absurd herror (channel_filterType h)
  · rw [diagnostics_flatMap_tagTrace] at h
    obtain ⟨definition, -, rfl⟩ := List.mem_map.mp h
    cases herror
  · unfold taglets at h
    split at h
    · split at h
      · simp_all [Diagnostic.warning]
      next names hnames =>
        rw [Environment.diagnostics_loadAll] at h
        obtain ⟨outcome, hmem, rfl⟩ := List.mem_map.mp h
        obtain ⟨before, name, after, hsplit, -, houtcome⟩ := Environment.exists_of_mem_outcomes hmem
        obtain ⟨e, rfl⟩ := eq_error_of_channel herror
        exact ⟨names, before, name, after, e, hnames, hsplit, houtcome, rfl⟩
    · cases h

/-- An error escapes while the taglet classes are loaded that the options name, after the tags that they
define. -/
def TagletsEscape (env : Environment) (m : OptionMatrix) (e : ForeignError) : Prop :=
  ∃ names outcomes left, m.first? Flag.taglet.text = some names ∧
    env.LoadsAll (Text.split ':' names) (withTags (definitions m) Registry.standard) outcomes (some e) left

/-- The registry comes about unless an error escapes. -/
theorem registry_eq_error_iff {e : ForeignError} : registry env m = .error e ↔ TagletsEscape env m e := by
  cases hfirst : m.first? Flag.taglet.text with
  | none =>
    have hregistry : registry env m = .ok (withTags (definitions m) Registry.standard) := by
      unfold registry taglets
      rw [hfirst]
      split <;> rfl
    simp [hregistry, TagletsEscape, hfirst]
  | some names =>
    obtain ⟨stop, hall, hloaded⟩ :=
      env.exists_loadsAll (Text.split ':' names) (withTags (definitions m) Registry.standard)
    unfold registry taglets
    rw [if_pos (OptionMatrix.has_of_first? hfirst), hfirst]
    simp only [hloaded]
    constructor
    · intro h
      cases stop with
      | none => cases h
      | some e' =>
        cases h
        exact ⟨names, _, _, hfirst, hall⟩
    · rintro ⟨names', outcomes, left, hfirst', hall'⟩
      cases hfirst.symm.trans hfirst'
      obtain ⟨-, rfl, -⟩ := hall'.unique hall
      rfl

/-- No error escapes when all that can be loaded is in order. -/
theorem not_tagletsEscape_of_orderly (horderly : env.Orderly) (m : OptionMatrix) (e : ForeignError) :
    ¬TagletsEscape env m e := by
  rintro ⟨names, outcomes, left, -, hall⟩
  obtain ⟨before, name, after, middle, -, -, hescapes⟩ := hall.exists_of_escape rfl
  exact horderly.not_failsToLoad_escape name middle e left hescapes

end Build

/-! ## The whole check -/

/-- Without an output directory nothing is built, and nothing else is checked. -/
theorem build_of_directory_none {t : Trace} (h : Build.directory m = (none, t)) :
    build env lookup m = ⟨.ok none, t⟩ := by
  unfold build
  rw [h]

/-- Without an encoding nothing is built, and nothing behind it is checked. -/
theorem build_of_encoding_none {directory : NormalPath} {t u : Trace}
    (hdirectory : Build.directory m = (some directory, t))
    (hencoding : Build.encoding lookup m = (.ok none, u)) :
    build env lookup m = ⟨.ok none, t ++ u⟩ := by
  unfold build
  rw [hdirectory, hencoding]

/-- A fault of the encoding escapes the check. -/
theorem build_of_encoding_fault {directory : NormalPath} {fault : Encoding.Fault} {t u : Trace}
    (hdirectory : Build.directory m = (some directory, t))
    (hencoding : Build.encoding lookup m = (.error fault, u)) :
    build env lookup m = ⟨.error (.encoding fault), t ++ u⟩ := by
  unfold build
  rw [hdirectory, hencoding]

/-- With a directory, an encoding and a registry, everything else is built around them. -/
theorem build_of_settled {directory : NormalPath} {encoding : String} {registry : Registry} {t u : Trace}
    (hdirectory : Build.directory m = (some directory, t))
    (hencoding : Build.encoding lookup m = (.ok (some encoding), u))
    (hregistry : Build.registry env m = .ok registry) :
    build env lookup m =
      ⟨.ok (some (Configuration.make directory (m.has Flag.multiple.text)
        (m.has Flag.subfolders.text) encoding (Build.fileName m).1 m.wantedFilter registry)),
        t ++ u ++ Build.laterTrace env m⟩ := by
  unfold build
  rw [hdirectory, hencoding, Build.wantedFilter_eq]
  unfold Build.registry at hregistry
  simp only [Build.laterTrace, List.append_assoc, hregistry]

/-- An error that escapes the loading of taglets escapes the check. -/
theorem build_of_taglets_escape {directory : NormalPath} {encoding : String} {e : ForeignError} {t u : Trace}
    (hdirectory : Build.directory m = (some directory, t))
    (hencoding : Build.encoding lookup m = (.ok (some encoding), u))
    (hregistry : Build.registry env m = .error e) :
    build env lookup m = ⟨.error (.taglets e), t ++ u ++ Build.laterTrace env m⟩ := by
  unfold build
  rw [hdirectory, hencoding]
  unfold Build.registry at hregistry
  simp only [Build.laterTrace, List.append_assoc, hregistry]

/-- What a check reports when it makes a configuration, step by step. -/
theorem trace_of_build {c : Configuration}
    (h : (build env lookup m).configuration = .ok (some c)) :
    (build env lookup m).trace =
      (Build.directory m).2 ++ (Build.encoding lookup m).2 ++ Build.laterTrace env m := by
  obtain ⟨directory, encoding, registry, hdirectory, hencoding, hregistry, -⟩ := configuration_of_build h
  rw [build_of_settled (Prod.ext hdirectory rfl) (Prod.ext hencoding rfl) hregistry]

end DocletPreflight
