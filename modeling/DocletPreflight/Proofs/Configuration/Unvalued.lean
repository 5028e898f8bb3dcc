import DocletPreflight.Proofs.Configuration.Report
import DocletPreflight.Proofs.Configuration.SeenAlike

/-!
# Options without a value

Rows of an option that takes a value may have none, as the last one does when the end of an argument list
cuts it off. When the first row of an option that counts once has none, a check ends with that, or warns
that the option is ignored (`Build.ignored_laterTrace`). A tag without a value is not reported
(`bareTag_unreported`): to the check it is not there (`build_filter_bareTag`). `unvalued_ignored` puts
these together.
-/

set_option autoImplicit false

namespace DocletPreflight

open OptionMatrix (SeenAlike named rowValue?)

/-- A check looks at a row for an option: the first of the option, or any row of the tags. -/
def OptionMatrix.Consulted (m : OptionMatrix) (flag : Flag) (row : List String) : Prop :=
  if flag = .tag then row ∈ m ∧ row.head? = some flag.text else m.IsFirst flag.text row

/-- There is a warning that an option is ignored, with or without a reason. -/
def Flag.IgnoredIn (flag : Flag) (ds : List Diagnostic) : Prop :=
  ∃ reason, .warning ("'" ++ flag.text ++ "' option ignored" ++ reason) ∈ ds

variable {env : Environment} {lookup : Encoding.Lookup} {m : OptionMatrix}

/-- The report of an option that counts once warns of it when its first row has no value. -/
theorem ReportsOption.ignoredIn {α : Type} {flag : Flag} {label : String} {usable : String → Prop}
    {keep : String → α} {default kept : α} {ds : List Diagnostic}
    (hreport : ReportsOption m flag label usable keep default kept ds)
    (hhas : m.has flag.text = true) (h : m.first? flag.text = none) : flag.IgnoredIn ds := by
  cases hreport with
  | absent habsent =>
    rw [OptionMatrix.has_eq_false_iff.mpr habsent] at hhas
    cases hhas
  | kept hrow hvalue husable =>
    rw [hrow.first?_eq, hvalue] at h
    cases h
  | ignored hrow hunusable reason => exact ⟨reason, List.mem_singleton.mpr rfl⟩

/-- Taglet classes without a value are reported as ignored. -/
theorem ReportsTaglets.ignoredIn {r left : Registry} {ds : List Diagnostic}
    (hreport : ReportsTaglets env m r left ds) (hhas : m.has Flag.taglet.text = true)
    (h : m.first? Flag.taglet.text = none) : Flag.taglet.IgnoredIn ds := by
  cases hreport with
  | absent habsent =>
    rw [OptionMatrix.has_eq_false_iff.mpr habsent] at hhas
    cases hhas
  | ignored hrow hvalue => exact ⟨" - classes not specified", List.mem_singleton.mpr rfl⟩
  | loaded hrow hvalue hnames hcolon hloads hreports =>
    rw [hrow.first?_eq, hvalue] at h
    cases h

namespace Build

/-- The steps after the directory and the encoding warn of the first row of an option that has no
value. -/
theorem ignored_laterTrace (env : Environment) {flag : Flag} (htakes : flag.takesValue = true)
    (hlater : flag ≠ .directory ∧ flag ≠ .encoding ∧ flag ≠ .tag) (hhas : m.has flag.text = true)
    (h : m.first? flag.text = none) : flag.IgnoredIn (laterTrace env m).diagnostics := by
  simp only [Flag.IgnoredIn, laterTrace, Trace.diagnostics_append, List.mem_append]
  cases flag with
  | directory => exact absurd rfl hlater.1
  | encoding => exact absurd rfl hlater.2.1
  | tag => exact absurd rfl hlater.2.2
  | multiple => cases htakes
  | subfolders => cases htakes
  | fileName =>
    obtain ⟨reason, hreason⟩ := (reportsOption_fileName m).ignoredIn hhas h
    exact ⟨reason, .inl (.inl (.inl (.inl (.inl hreason))))⟩
  | «extends» =>
    obtain ⟨reason, hreason⟩ := (reportsType_filterType m .extends _ _).ignoredIn hhas h
    exact ⟨reason, .inl (.inl (.inl (.inl (.inr hreason))))⟩
  | annotated =>
    obtain ⟨reason, hreason⟩ := (reportsType_filterType m .annotated _ _).ignoredIn hhas h
    exact ⟨reason, .inl (.inl (.inl (.inr hreason)))⟩
  | implements =>
    obtain ⟨reason, hreason⟩ := (reportsType_filterType m .implements _ _).ignoredIn hhas h
    exact ⟨reason, .inl (.inl (.inr hreason))⟩
  | taglet =>
    cases hregistry : registry env m with
    | ok left =>
      obtain ⟨reason, hreason⟩ := (reportsTaglets hregistry).ignoredIn hhas h
      exact ⟨reason, .inr hreason⟩
    | error e =>
      -- no classes are named, so no error can escape from them
      obtain ⟨names, _, _, hnames, -⟩ := registry_eq_error_iff.mp hregistry
      rw [h] at hnames
      cases hnames

end Build

/-- Of the rows that a check looks at and that have no value, those of all options but the tags are warned
of when there is a configuration. -/
theorem ignored_of_build {c : Configuration} (hc : (build env lookup m).configuration = .ok (some c))
    {flag : Flag} (htakes : flag.takesValue = true) (htag : flag ≠ .tag) {row : List String}
    (hrow : m.IsFirst flag.text row) (hvalue : rowValue? row = none) :
    flag.IgnoredIn (build env lookup m).trace.diagnostics := by
  have hsettled := not_fatal_of_build hc
  have hdirectory : flag ≠ .directory := by
    rintro rfl
    exact hsettled (.directoryEmpty hrow (.inl hvalue))
  have hencoding : flag ≠ .encoding := by
    rintro rfl
    exact hsettled (.encodingEmpty hrow (.inl hvalue))
  obtain ⟨reason, hreason⟩ := Build.ignored_laterTrace env htakes
    ⟨hdirectory, hencoding, htag⟩ (OptionMatrix.has_iff.mpr ⟨row, hrow⟩)
    (hrow.first?_eq.trans hvalue)
  refine ⟨reason, ?_⟩
  rw [trace_of_build hc, Trace.diagnostics_append]
  exact List.mem_append_right _ hreason

/-! ## Tags without a value -/

/-- A row defines a tag, but has no value. -/
def OptionMatrix.isBareTag (row : List String) : Bool :=
  named Flag.tag.text row && (rowValue? row).isNone

/-- A matrix is seen as it is without its rows of tags that have no value. -/
theorem OptionMatrix.seenAlike_filter_bareTag (m : OptionMatrix) :
    SeenAlike (m.filter fun row => !isBareTag row) m := by
  refine .of_find (fun flag hflag => ?_) ?_
  -- a row of another option is never taken out, so the first of them stays the first
  · rw [List.find?_filter]
    congr 2
    funext row
    by_cases hrow : named flag.text row = true
    · have htag : ¬named Flag.tag.text row = true := by
        intro htag
        have htext := (named_iff.mp hrow).symm.trans (named_iff.mp htag)
        exact hflag (Flag.text_injective (Option.some.inj htext))
      simp [hrow, isBareTag, htag]
    · simp [hrow]
  · simp only [values, List.filterMap_filter]
    congr 1
    funext row
    cases hrow : named Flag.tag.text row with
    | false => simp
    | true => cases hvalue : rowValue? row <;> simp [isBareTag, hrow, hvalue]

/-- Rows of tags without a value change nothing in the outcome of the check. -/
theorem build_filter_bareTag (env : Environment) (lookup : Encoding.Lookup) (m : OptionMatrix) :
    build env lookup (m.filter fun row => !OptionMatrix.isBareTag row) = build env lookup m :=
  build_of_seenAlike (OptionMatrix.seenAlike_filter_bareTag m) env lookup

/-- Not every row without a value is reported: a tag without one goes by unnoticed. -/
theorem bareTag_unreported :
    ¬∀ (env : Environment) (lookup : Encoding.Lookup) (m : OptionMatrix) (c : Configuration),
      (build env lookup m).configuration = .ok (some c) →
      ∀ flag row, flag.takesValue = true → m.Consulted flag row → rowValue? row = none →
        ∃ d ∈ (build env lookup m).trace.diagnostics, d.channel = .warning ∨ d.channel = .error := by
  intro h
  have hconsulted : OptionMatrix.Consulted [["-d", "out"], ["-tag"]] .tag ["-tag"] := by
    rw [OptionMatrix.Consulted, if_pos rfl]
    exact ⟨by simp, rfl⟩
  obtain ⟨d, hd, hchannel⟩ :=
    h .bare Encoding.lookup [["-d", "out"], ["-tag"]] _ rfl .tag ["-tag"] rfl hconsulted rfl
  have hnotice : d = .notice "Output directory: out" := List.mem_singleton.mp hd
  subst hnotice
  rcases hchannel with hwarning | herror
  · cases hwarning
  · cases herror

/-- When there is a configuration, a row that the check looks at for an option other than the tags, and
that has no value, is warned of by the name of the option. A tag without a value is passed over: the
check comes to the same, and reports the same, without it. -/
theorem unvalued_ignored (env : Environment) (lookup : Encoding.Lookup) (m : OptionMatrix) :
    (∀ c, (build env lookup m).configuration = .ok (some c) →
      ∀ flag row, flag.takesValue = true → flag ≠ .tag → m.Consulted flag row →
        rowValue? row = none → flag.IgnoredIn (build env lookup m).trace.diagnostics) ∧
    build env lookup (m.filter fun row => !OptionMatrix.isBareTag row) = build env lookup m := by
  refine ⟨?_, build_filter_bareTag env lookup m⟩
  intro c hc flag row htakes htag hrow hvalue
  rw [OptionMatrix.Consulted, if_neg htag] at hrow
  exact ignored_of_build hc htakes htag hrow hvalue

/-- Options of which the first superclass, a tag and the taglet classes have no value. -/
def bareOptions : OptionMatrix :=
  [["-tag"], ["-d", "out"], ["-extends"], ["-extends", "Base"], ["-taglet"]]

/-- The superclass and the taglet classes are warned of, and the tag might as well not be there. -/
theorem bareOptions_ignored :
    Flag.extends.IgnoredIn (build .bare Encoding.lookup bareOptions).trace.diagnostics ∧
    Flag.taglet.IgnoredIn (build .bare Encoding.lookup bareOptions).trace.diagnostics ∧
    build .bare Encoding.lookup bareOptions.tail = build .bare Encoding.lookup bareOptions := by
  obtain ⟨hignored, hbare⟩ := unvalued_ignored .bare Encoding.lookup bareOptions
  have hextends : bareOptions.Consulted .extends ["-extends"] :=
    ⟨[["-tag"], ["-d", "out"]], _, rfl, rfl, by decide⟩
  have htaglet : bareOptions.Consulted .taglet ["-taglet"] :=
    ⟨[["-tag"], ["-d", "out"], ["-extends"], ["-extends", "Base"]], _, rfl, rfl, by decide⟩
  refine ⟨?_, ?_, hbare⟩
  · exact hignored _ rfl .extends ["-extends"] rfl (by decide) hextends rfl
  · exact hignored _ rfl .taglet ["-taglet"] rfl (by decide) htaglet rfl

end DocletPreflight
