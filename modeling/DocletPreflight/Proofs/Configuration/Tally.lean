import DocletPreflight.Proofs.Configuration.Report

/-!
# How much a check reports

How many failures and warnings are reported by a check that makes a configuration is told by the option
matrix. The only failures are the taglet classes that are named and cannot be loaded, and the only warnings
are the options that are there and ignored (`OptionMatrix.Ignores`), each of them once. Both numbers are
read off the parts of the report (`ReportsTaglets.tally_error`, `ReportsOption.tally_warning`), and
`tallies_of_build` puts them together.
-/

set_option autoImplicit false

namespace DocletPreflight

open OptionMatrix (rowValue? named)

/-! ## What is ignored, and what is named -/

namespace OptionMatrix

instance (m : OptionMatrix) (flag : Flag) : Decidable (m.Absent flag) :=
  inferInstanceAs (Decidable (∀ row ∈ m, row.head? ≠ some flag.text))

/-- An option is there, and the value of its first row is missing or cannot be used. -/
def Unused (m : OptionMatrix) (flag : Flag) (usable : String → Prop) : Prop :=
  ∃ row, m.IsFirst flag.text row ∧ ∀ value, rowValue? row = some value → ¬usable value

instance (m : OptionMatrix) (flag : Flag) (usable : String → Prop) [DecidablePred usable] :
    Decidable (m.Unused flag usable) :=
  decidable_of_iff
    (∃ row ∈ m.find? (named flag.text), ∀ value ∈ rowValue? row, ¬usable value) <| by
      simp only [Unused, isFirst_iff, Option.mem_def]

/-- An option is there and is ignored. A file name can be used when it is not empty and there is a single
file, and any value is one for a type or for taglet classes. -/
def Ignores (m : OptionMatrix) : Flag → Prop
  | .fileName => m.Unused .fileName fun name => name ≠ "" ∧ m.Absent .multiple
  | .extends => m.Unused .extends fun _ => True
  | .annotated => m.Unused .annotated fun _ => True
  | .implements => m.Unused .implements fun _ => True
  | .taglet => m.Unused .taglet fun _ => True
  | .directory | .encoding | .multiple | .tag | .subfolders => False

instance (m : OptionMatrix) : DecidablePred m.Ignores
  | .fileName => inferInstanceAs (Decidable (m.Unused .fileName _))
  | .extends => inferInstanceAs (Decidable (m.Unused .extends _))
  | .annotated => inferInstanceAs (Decidable (m.Unused .annotated _))
  | .implements => inferInstanceAs (Decidable (m.Unused .implements _))
  | .taglet => inferInstanceAs (Decidable (m.Unused .taglet _))
  | .directory | .encoding | .multiple | .tag | .subfolders => inferInstanceAs (Decidable False)

/-- The number of the options that are there and ignored. -/
def ignoredCount (m : OptionMatrix) : Nat := Flag.all.countP (m.Ignores ·)

/-- The number of ignored options adds up over the five that can be ignored. -/
theorem ignoredCount_eq (m : OptionMatrix) :
    m.ignoredCount = (if m.Ignores .fileName then 1 else 0) + (if m.Ignores .extends then 1 else 0) +
      (if m.Ignores .annotated then 1 else 0) + (if m.Ignores .implements then 1 else 0) +
      (if m.Ignores .taglet then 1 else 0) := by
  have hdirectory : ¬m.Ignores .directory := id
  have hencoding : ¬m.Ignores .encoding := id
  have hmultiple : ¬m.Ignores .multiple := id
  have htag : ¬m.Ignores .tag := id
  have hsubfolders : ¬m.Ignores .subfolders := id
  simp only [ignoredCount, Flag.all, List.countP_cons, List.countP_nil, decide_eq_true_eq, hdirectory,
    hencoding, hmultiple, htag, hsubfolders, if_false]
  omega

/-- The taglet classes that are named: the pieces between the colons of the value of the first row, if there
is one. -/
inductive NamesTaglets (m : OptionMatrix) : List String → Prop where
  | absent (h : m.Absent .taglet) : NamesTaglets m []
  | unvalued {row : List String} (hrow : m.IsFirst Flag.taglet.text row) (hvalue : rowValue? row = none) :
      NamesTaglets m []
  | named {row names : List String} (hrow : m.IsFirst Flag.taglet.text row)
      (hvalue : rowValue? row = some (String.intercalate ":" names)) (hnames : names ≠ [])
      (hcolon : ∀ name ∈ names, ':' ∉ name.toList) : NamesTaglets m names

variable {m : OptionMatrix} {flag : Flag} {usable : String → Prop} {row other : List String}

/-- There is only one first row of a name. -/
theorem IsFirst.unique {name : String} (h : m.IsFirst name row) (hother : m.IsFirst name other) :
    other = row :=
  Option.some.inj ((isFirst_iff.mp hother).symm.trans (isFirst_iff.mp h))

/-- An option with a first row is there. -/
theorem IsFirst.not_absent (h : m.IsFirst flag.text row) : ¬m.Absent flag := by
  intro habsent
  obtain ⟨before, after, rfl, hname, -⟩ := h
  exact habsent row (by simp) hname

/-- An option that is not there is not unused. -/
theorem not_unused_of_absent (h : m.Absent flag) : ¬m.Unused flag usable :=
  fun ⟨_, hrow, _⟩ => hrow.not_absent h

/-- An option with a usable value is used. -/
theorem IsFirst.not_unused {value : String} (h : m.IsFirst flag.text row)
    (hvalue : rowValue? row = some value) (husable : usable value) : ¬m.Unused flag usable := by
  rintro ⟨other, hother, hnone⟩
  obtain rfl := h.unique hother
  exact hnone value hvalue husable

end OptionMatrix

/-! ## The parts of a report -/

variable {env : Environment} {lookup : Encoding.Lookup} {m : OptionMatrix} {ds : List Diagnostic}

/-- The tally of a channel grows by one for each diagnostic on it. -/
theorem tally_cons (channel : Channel) (d : Diagnostic) (ds : List Diagnostic) :
    tally channel (d :: ds) = (if d.channel = channel then 1 else 0) + tally channel ds := by
  simp only [tally, List.filter_cons, decide_eq_true_eq]
  split
  · rw [List.length_cons, Nat.add_comm]
  · rw [Nat.zero_add]

section ReportsOption

variable {α : Type} {flag : Flag} {label : String} {usable : String → Prop} {keep : String → α}
  {default kept : α}

/-- An option that counts once is warned of when it is ignored. -/
theorem ReportsOption.tally_warning [Decidable (m.Unused flag usable)]
    (h : ReportsOption m flag label usable keep default kept ds) :
    tally .warning ds = if m.Unused flag usable then 1 else 0 := by
  cases h with
  | absent habsent => exact (if_neg (OptionMatrix.not_unused_of_absent habsent)).symm
  | kept hrow hvalue husable => exact (if_neg (hrow.not_unused hvalue husable)).symm
  | ignored hrow hunusable reason => exact (if_pos ⟨_, hrow, hunusable⟩).symm

/-- An option that counts once is never a failure. -/
theorem ReportsOption.tally_error (h : ReportsOption m flag label usable keep default kept ds) :
    tally .error ds = 0 := by
  cases h <;> rfl

end ReportsOption

/-- The failures among outcomes are told as errors, and nothing is told as a warning. -/
theorem tally_of_reportsOutcome {outcomes : List (Except LoadError TagletClass)}
    (h : List.Forall₂ ReportsOutcome outcomes ds) :
    tally .error ds = outcomes.countP (!·.isOk) ∧ tally .warning ds = 0 := by
  induction h with
  | nil => exact ⟨rfl, rfl⟩
  | cons hone _ ih =>
    obtain ⟨herrors, hwarnings⟩ := ih
    cases hone with
    | loaded c => simp [tally_cons, herrors, hwarnings, Diagnostic.notice, Except.isOk, Except.toBool]
    | failed e =>
      simp [tally_cons, herrors, hwarnings, Diagnostic.error, Except.isOk, Except.toBool, Nat.add_comm]

/-- The taglet classes that are named fail as they are loaded one after another, and the option is warned
of when it names none. -/
theorem ReportsTaglets.tally_error {r left : Registry} (h : ReportsTaglets env m r left ds) :
    (∃ names outcomes, m.NamesTaglets names ∧ env.LoadsAll names r outcomes none left ∧
      tally .error ds = outcomes.countP (!·.isOk)) ∧
    tally .warning ds = if m.Ignores .taglet then 1 else 0 := by
  cases h with
  | absent habsent =>
    have hused : ¬m.Ignores .taglet := OptionMatrix.not_unused_of_absent habsent
    exact ⟨⟨[], [], .absent habsent, .nil _, rfl⟩, (if_neg hused).symm⟩
  | ignored hrow hvalue =>
    have hunused : m.Ignores .taglet := ⟨_, hrow, by simp [hvalue]⟩
    exact ⟨⟨[], [], .unvalued hrow hvalue, .nil _, rfl⟩, (if_pos hunused).symm⟩
  | loaded hrow hvalue hnames hcolon hloads hreports =>
    have hused : ¬m.Ignores .taglet := hrow.not_unused hvalue trivial
    obtain ⟨herrors, hwarnings⟩ := tally_of_reportsOutcome hreports
    rw [if_neg hused]
    exact ⟨⟨_, _, .named hrow hvalue hnames hcolon, hloads, herrors⟩, hwarnings⟩

/-- An output directory leads to no error and no warning. -/
theorem ReportsDirectory.tally_eq_zero {directory : NormalPath} (h : ReportsDirectory m directory ds) :
    tally .error ds = 0 ∧ tally .warning ds = 0 := by
  cases h
  exact ⟨rfl, rfl⟩

/-- An encoding leads to no error and no warning. -/
theorem ReportsEncoding.tally_eq_zero {encoding : String} (h : ReportsEncoding lookup m encoding ds) :
    tally .error ds = 0 ∧ tally .warning ds = 0 := by
  cases h <;> exact ⟨rfl, rfl⟩

/-- Notices are neither errors nor warnings. -/
theorem tally_map_notice {α : Type} (message : α → String) (items : List α) :
    tally .error (items.map fun item => .notice (message item)) = 0 ∧
      tally .warning (items.map fun item => .notice (message item)) = 0 := by
  induction items with
  | nil => exact ⟨rfl, rfl⟩
  | cons item items ih => simpa [tally_cons, Diagnostic.notice] using ih

/-! ## A whole report -/

/-- The numbers of failures and warnings of a check, told by its matrix: the taglet classes that are named
and cannot be loaded, beside the standard taglets and the custom tags, and the options that are ignored. -/
structure Tallies (env : Environment) (m : OptionMatrix) (errors warnings : Nat) : Prop where
  failed : ∃ names outcomes left, m.NamesTaglets names ∧
    env.LoadsAll names (Build.withTags (Build.definitions m) Registry.standard) outcomes none left ∧
    errors = outcomes.countP (!·.isOk)
  ignored : warnings = m.ignoredCount

/-- A report that accounts for a configuration has the tallies that the matrix tells. -/
theorem Report.Accounts.tallies {report : Report} {c : Configuration}
    (h : report.Accounts env lookup m c) :
    Tallies env m (tally .error report.all) (tally .warning report.all) := by
  obtain ⟨hdirectoryErrors, hdirectoryWarnings⟩ := h.directory.tally_eq_zero
  obtain ⟨hencodingErrors, hencodingWarnings⟩ := h.encoding.tally_eq_zero
  obtain ⟨htagErrors, htagWarnings⟩ : tally .error report.tags = 0 ∧ tally .warning report.tags = 0 := by
    rw [h.tags]
    exact tally_map_notice _ _
  obtain ⟨left, -, htaglets⟩ := h.taglets
  obtain ⟨⟨names, outcomes, hnames, hloads, htagletErrors⟩, htagletWarnings⟩ := htaglets.tally_error
  constructor
  · refine ⟨names, outcomes, left, hnames, hloads, ?_⟩
    simp only [Report.all, tally_append, hdirectoryErrors, hencodingErrors, h.fileName.tally_error,
      h.superclass.tally_error, h.annotationType.tally_error, h.interface.tally_error, htagErrors,
      htagletErrors, Nat.zero_add]
  · have hfileName : tally .warning report.fileName = if m.Ignores .fileName then 1 else 0 :=
      h.fileName.tally_warning
    have hsuperclass : tally .warning report.superclass = if m.Ignores .extends then 1 else 0 :=
      h.superclass.tally_warning
    have hannotation : tally .warning report.annotationType = if m.Ignores .annotated then 1 else 0 :=
      h.annotationType.tally_warning
    have hinterface : tally .warning report.interface = if m.Ignores .implements then 1 else 0 :=
      h.interface.tally_warning
    simp only [Report.all, tally_append, hdirectoryWarnings, hencodingWarnings, htagWarnings,
      OptionMatrix.ignoredCount_eq]
    omega

end DocletPreflight
