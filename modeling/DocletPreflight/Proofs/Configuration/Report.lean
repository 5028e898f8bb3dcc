import DocletPreflight.Proofs.Configuration.Fatal
import DocletPreflight.Proofs.Text.Cuts

/-!
# What a check reports

The report of a check that makes a configuration has eight parts in a fixed order, one for each option that
can be reported on (`Report`), and each part says what became of its option. An option that counts once is
not there, or its first row has a value that is kept and told by a notice, or it is ignored with a warning
and the default stays (`ReportsOption`). Each tag that has a value is told, and each taglet class that is
named is told or is an error (`ReportsTaglets`). The parts agree with the configuration
(`Report.Accounts`); `report_of_build` puts them together, a step of the check each.
-/

set_option autoImplicit false

namespace DocletPreflight

open OptionMatrix (rowValue?)

/-- What is reported of the options, in the order of the steps of a check. -/
structure Report where
  directory : List Diagnostic
  encoding : List Diagnostic
  fileName : List Diagnostic
  superclass : List Diagnostic
  annotationType : List Diagnostic
  interface : List Diagnostic
  tags : List Diagnostic
  taglets : List Diagnostic

/-- All that is reported. -/
def Report.all (report : Report) : List Diagnostic :=
  report.directory ++ report.encoding ++ report.fileName ++ report.superclass ++
    report.annotationType ++ report.interface ++ report.tags ++ report.taglets

/-- No row has the name of an option. -/
def OptionMatrix.Absent (m : OptionMatrix) (flag : Flag) : Prop :=
  ∀ row ∈ m, row.head? ≠ some flag.text

/-- The output directory is the value of its first row, which is told. -/
inductive ReportsDirectory (m : OptionMatrix) : NormalPath → List Diagnostic → Prop where
  | given {row : List String} {text : String} (hrow : m.IsFirst Flag.directory.text row)
      (hvalue : rowValue? row = some text) (hne : text ≠ "") :
      ReportsDirectory m (NormalPath.parse text) [.notice ("Output directory: " ++ text)]

/-- The encoding is the default, of which nothing is told, or the one that the value of its first row
names. -/
inductive ReportsEncoding (lookup : Encoding.Lookup) (m : OptionMatrix) :
    String → List Diagnostic → Prop where
  | absent (h : m.Absent .encoding) : ReportsEncoding lookup m Configuration.defaultEncoding []
  | known {row : List String} {name canonical : String} (hrow : m.IsFirst Flag.encoding.text row)
      (hvalue : rowValue? row = some name) (hlookup : lookup name = .ok canonical) :
      ReportsEncoding lookup m canonical [.notice ("Output encoding: " ++ canonical)]

/-- An option that counts once is not there, or the value of its first row can be used, is kept, and is
told after a label; otherwise the option is ignored with a warning. The default stays unless the value is
kept. -/
inductive ReportsOption {α : Type} (m : OptionMatrix) (flag : Flag) (label : String)
    (usable : String → Prop) (keep : String → α) (default : α) : α → List Diagnostic → Prop where
  | absent (h : m.Absent flag) : ReportsOption m flag label usable keep default default []
  | kept {row : List String} {value : String} (hrow : m.IsFirst flag.text row)
      (hvalue : rowValue? row = some value) (husable : usable value) :
      ReportsOption m flag label usable keep default (keep value) [.notice (label ++ value)]
  | ignored {row : List String} (hrow : m.IsFirst flag.text row)
      (hunusable : ∀ value, rowValue? row = some value → ¬usable value) (reason : String) :
      ReportsOption m flag label usable keep default default
        [.warning ("'" ++ flag.text ++ "' option ignored" ++ reason)]

/-- A type that a class must have to do with, as an option reports it: any value can be used. -/
abbrev ReportsType (m : OptionMatrix) (flag : Flag) (verb : String) :
    Option String → List Diagnostic → Prop :=
  ReportsOption m flag ("Filtering classes " ++ verb ++ ": ") (fun _ => True) some none

/-- The taglet classes are not named, or they are ignored because no names stand after the option, or
there is one diagnostic for each of the names that stand between colons. -/
inductive ReportsTaglets (env : Environment) (m : OptionMatrix) (r : Registry) :
    Registry → List Diagnostic → Prop where
  | absent (h : m.Absent .taglet) : ReportsTaglets env m r r []
  | ignored {row : List String} (hrow : m.IsFirst Flag.taglet.text row)
      (hvalue : rowValue? row = none) :
      ReportsTaglets env m r r [.warning "'-taglet' option ignored - classes not specified"]
  | loaded {row names : List String} {left : Registry}
      {outcomes : List (Except LoadError TagletClass)} (hrow : m.IsFirst Flag.taglet.text row)
      (hvalue : rowValue? row = some (String.intercalate ":" names)) (hnames : names ≠ [])
      (hcolon : ∀ name ∈ names, ':' ∉ name.toList) (hloads : env.LoadsAll names r outcomes none left)
      {ds : List Diagnostic} (hreports : List.Forall₂ ReportsOutcome outcomes ds) :
      ReportsTaglets env m r left ds

/-- The parts of a report say what became of the options, and agree with a configuration. -/
structure Report.Accounts (report : Report) (env : Environment) (lookup : Encoding.Lookup)
    (m : OptionMatrix) (c : Configuration) : Prop where
  directory : ReportsDirectory m c.directory report.directory
  encoding : ReportsEncoding lookup m c.encoding report.encoding
  fileName : ReportsOption m .fileName "Using file name: "
    (fun name => name ≠ "" ∧ m.Absent .multiple) id Configuration.defaultFileName
    c.fileName report.fileName
  superclass : ReportsType m .extends "extending" c.classFilter.superclass report.superclass
  annotationType :
    ReportsType m .annotated "annotated" c.classFilter.annotationType report.annotationType
  interface : ReportsType m .implements "implementing" c.classFilter.interface report.interface
  tags : report.tags = (m.values Flag.tag.text).map fun text =>
    .notice ("Using Tag " ++ (TagDefinition.parse text).name)
  taglets : ∃ left, c.taglets = { left with frozen := true } ∧
    ReportsTaglets env m (Build.withTags (Build.definitions m) Registry.standard) left report.taglets
  singleFile : c.multipleFiles = true → c.fileName = Configuration.defaultFileName

variable {env : Environment} {lookup : Encoding.Lookup} {m : OptionMatrix}

/-- An option of which no value can be used is left at its default. -/
theorem ReportsOption.eq_default {α : Type} {flag : Flag} {label : String} {usable : String → Prop}
    {keep : String → α} {default kept : α} {ds : List Diagnostic}
    (h : ReportsOption m flag label usable keep default kept ds) (hnone : ∀ value, ¬usable value) :
    kept = default := by
  cases h with
  | absent h => rfl
  | kept hrow hvalue husable => exact absurd husable (hnone _)
  | ignored hrow hunusable reason => rfl

namespace Build

/-! ## The steps -/

/-- Where there is an output directory, the report accounts for it. -/
theorem reportsDirectory_of_some {directory : NormalPath}
    (h : (Build.directory m).1 = some directory) :
    ReportsDirectory m directory (Build.directory m).2.diagnostics := by
  by_cases hlacks : m.Lacks Flag.directory.text
  · obtain ⟨ds, -, hnone⟩ := directory_of_lacks hlacks
    rw [hnone] at h
    cases h
  · obtain ⟨text, htext, hne⟩ := OptionMatrix.exists_of_not_lacks hlacks
    obtain ⟨row, hrow, hvalue⟩ := OptionMatrix.first?_eq_some_iff.mp htext
    rw [directory_of_value htext hne] at h ⊢
    cases h
    exact .given hrow hvalue hne

/-- An encoding that is kept for a name has been found under it. -/
theorem lookup_of_encoding {name encoding : String} (hname : m.first? Flag.encoding.text = some name)
    (hne : name ≠ "") (h : (Build.encoding lookup m).1 = .ok (some encoding)) :
    ∃ canonical, lookup name = .ok canonical := by
  unfold Build.encoding at h
  rw [if_pos (OptionMatrix.has_of_first? hname), hname] at h
  cases hlookup : lookup name with
  | ok canonical => exact ⟨canonical, rfl⟩
  | error fault =>
    split at h
    next heq => cases heq
    next heq => exact absurd (Option.some.inj heq) hne
    next heq =>
      cases heq
      rw [hlookup] at h
      cases fault <;> cases h

/-- Where there is an encoding, the report accounts for it. -/
theorem reportsEncoding_of_ok {encoding : String}
    (h : (Build.encoding lookup m).1 = .ok (some encoding)) :
    ReportsEncoding lookup m encoding (Build.encoding lookup m).2.diagnostics := by
  cases hhas : m.has Flag.encoding.text with
  | false =>
    rw [encoding_of_absent hhas] at h ⊢
    cases h
    exact .absent (OptionMatrix.has_eq_false_iff.mp hhas)
  | true =>
    by_cases hlacks : m.Lacks Flag.encoding.text
    · obtain ⟨ds, -, hnone⟩ :
          ∃ ds, IsFailure ds ∧ Build.encoding lookup m = (.ok none, .reporting ds) :=
        encoding_of_lacks hhas hlacks
      rw [hnone] at h
      cases h
    · obtain ⟨name, hname, hne⟩ := OptionMatrix.exists_of_not_lacks hlacks
      obtain ⟨row, hrow, hvalue⟩ := OptionMatrix.first?_eq_some_iff.mp hname
      obtain ⟨canonical, hlookup⟩ := lookup_of_encoding hname hne h
      rw [encoding_of_known hname hne hlookup] at h ⊢
      cases h
      exact .known hrow hvalue hlookup

/-- The report accounts for the name of the output file. -/
theorem reportsOption_fileName (m : OptionMatrix) :
    ReportsOption m .fileName "Using file name: " (fun name => name ≠ "" ∧ m.Absent .multiple) id
      Configuration.defaultFileName (fileName m).1 (fileName m).2.diagnostics := by
  unfold fileName
  cases hhas : m.has Flag.fileName.text with
  | false => exact .absent (OptionMatrix.has_eq_false_iff.mp hhas)
  | true =>
    obtain ⟨row, hrow⟩ := OptionMatrix.has_iff.mp hhas
    rw [if_pos rfl, hrow.first?_eq]
    split
    next hvalue => exact .ignored hrow (by simp [hvalue]) ""
    next hvalue => exact .ignored hrow (by simp [hvalue]) ""
    next name hne hvalue =>
      split
      next hmultiple =>
        refine .ignored hrow ?_ ""
        rintro value - ⟨-, habsent⟩
        rw [OptionMatrix.has_eq_false_iff.mpr habsent] at hmultiple
        cases hmultiple
      next hmultiple =>
        rw [Bool.not_eq_true, OptionMatrix.has_eq_false_iff] at hmultiple
        refine .kept hrow hvalue ⟨?_, hmultiple⟩
        rintro rfl
        exact hne rfl

/-- The report accounts for each type that classes are filtered by. -/
theorem reportsType_filterType (m : OptionMatrix) (flag : Flag) (verb what : String) :
    ReportsType m flag verb (filterType m flag verb what).1
      (filterType m flag verb what).2.diagnostics := by
  unfold filterType
  cases hhas : m.has flag.text with
  | false => exact .absent (OptionMatrix.has_eq_false_iff.mp hhas)
  | true =>
    obtain ⟨row, hrow⟩ := OptionMatrix.has_iff.mp hhas
    rw [if_pos rfl, hrow.first?_eq]
    cases hvalue : rowValue? row with
    | some type => exact .kept hrow hvalue trivial
    | none =>
      have hcut : "' option ignored - " = "' option ignored" ++ " - " := by decide
      have htext : "'" ++ flag.text ++ "' option ignored - " ++ what ++ " not specified" =
          "'" ++ flag.text ++ "' option ignored" ++ (" - " ++ what ++ " not specified") := by
        rw [hcut]
        simp only [String.append_assoc]
      simp only [Trace.diagnostics_reporting, htext]
      exact .ignored hrow (by simp [hvalue]) _

/-- The loading of taglet classes reports what it leaves, unless an error escapes. -/
theorem reportsTaglets {r left : Registry} (h : (taglets env m r).1 = .ok left) :
    ReportsTaglets env m r left (taglets env m r).2.diagnostics := by
  unfold taglets at h ⊢
  cases hhas : m.has Flag.taglet.text with
  | false =>
    rw [hhas] at h
    cases h
    exact .absent (OptionMatrix.has_eq_false_iff.mp hhas)
  | true =>
    obtain ⟨row, hrow⟩ := OptionMatrix.has_iff.mp hhas
    rw [if_pos hhas, hrow.first?_eq] at h
    rw [if_pos rfl, hrow.first?_eq]
    cases hvalue : rowValue? row with
    | none =>
      rw [hvalue] at h
      cases h
      exact .ignored hrow hvalue
    | some text =>
      rw [hvalue] at h
      cases hloaded : (env.loadAll (Text.split ':' text) r).loaded with
      | error e =>
        simp only [hloaded] at h
        cases h
      | ok loaded =>
        simp only [hloaded] at h
        cases h
        obtain ⟨hnames, hcolon, hjoined⟩ := Text.split_eq_iff.mp (Eq.refl (Text.split ':' text))
        exact .loaded hrow (hvalue.trans (congrArg some hjoined.symm)) hnames hcolon
          (Environment.loadsAll_of_loaded hloaded).1 (Environment.forall₂_reportsOutcome env _ r)

/-- What the steps of a check report. -/
def report (env : Environment) (lookup : Encoding.Lookup) (m : OptionMatrix) : Report where
  directory := (Build.directory m).2.diagnostics
  encoding := (Build.encoding lookup m).2.diagnostics
  fileName := (Build.fileName m).2.diagnostics
  superclass := (Build.superclass m).2.diagnostics
  annotationType := (Build.annotationType m).2.diagnostics
  interface := (Build.interface m).2.diagnostics
  tags := Trace.diagnostics ((definitions m).flatMap tagTrace)
  taglets := (Build.taglets env m (withTags (definitions m) Registry.standard)).2.diagnostics

end Build

/-- All that a check that makes a configuration reports is what its steps report. -/
theorem diagnostics_of_build {c : Configuration}
    (h : (build env lookup m).configuration = .ok (some c)) :
    (build env lookup m).trace.diagnostics = (Build.report env lookup m).all := by
  simp only [trace_of_build h, Build.laterTrace, Build.report, Report.all, Trace.diagnostics_append,
    List.append_assoc]

/-- What the steps report accounts for the configuration. -/
theorem accounts_of_build {c : Configuration}
    (h : (build env lookup m).configuration = .ok (some c)) :
    (Build.report env lookup m).Accounts env lookup m c := by
  obtain ⟨directory, encoding, registry, hdirectory, hencoding, hregistry, rfl⟩ := configuration_of_build h
  rw [Build.wantedFilter_eq]
  exact
    { directory := Build.reportsDirectory_of_some hdirectory
      encoding := Build.reportsEncoding_of_ok hencoding
      fileName := Build.reportsOption_fileName m
      superclass := Build.reportsType_filterType m _ _ _
      annotationType := Build.reportsType_filterType m _ _ _
      interface := Build.reportsType_filterType m _ _ _
      tags := by
        rw [Build.report, Build.diagnostics_flatMap_tagTrace, Build.definitions, List.map_map]
        rfl
      taglets := ⟨registry, rfl, Build.reportsTaglets hregistry⟩
      singleFile := by
        intro hmultiple
        refine (Build.reportsOption_fileName m).eq_default ?_
        rintro value ⟨-, habsent⟩
        rw [OptionMatrix.has_eq_false_iff.mpr habsent] at hmultiple
        cases hmultiple }

/-- What is reported by a check that makes a configuration is made up of the parts that account for it. -/
theorem report_of_build {c : Configuration}
    (h : (build env lookup m).configuration = .ok (some c)) :
    ∃ report : Report, (build env lookup m).trace.diagnostics = report.all ∧
      report.Accounts env lookup m c :=
  ⟨Build.report env lookup m, diagnostics_of_build h, accounts_of_build h⟩

/-- Options in no particular order: two types of which the first counts, one option without its value, and
a file name that goes with a single file only. -/
def mixedOptions : OptionMatrix :=
  [["-tag", "todo:t:To do"], ["-implements", "Base"], ["-taglet", "a.B:"], ["-extends"], ["-multiple"],
    ["-implements", "Other"], ["-filename", "a.xml"], ["-d", "out"]]

/-- There are seven diagnostics for them, and the parts of the report account for these. -/
theorem mixedOptions_report :
    ∃ c report, (build .bare Encoding.lookup mixedOptions).configuration = .ok (some c) ∧
      Report.Accounts report .bare Encoding.lookup mixedOptions c ∧
      report.all =
        [.notice "Output directory: out",
          .warning "'-filename' option ignored",
          .warning "'-extends' option ignored - superclass not specified",
          .notice "Filtering classes implementing: Base",
          .notice "Using Tag todo",
          .error "'-taglet' option reported error - :Class not found: a.B",
          .error "'-taglet' option reported error - :Class not found: "] := by
  obtain ⟨c, hc⟩ :
      ∃ c, (build .bare Encoding.lookup mixedOptions).configuration = .ok (some c) := ⟨_, rfl⟩
  obtain ⟨report, hall, haccounts⟩ := report_of_build hc
  refine ⟨c, report, hc, haccounts, ?_⟩
  rw [← hall]
  decide +kernel

end DocletPreflight
