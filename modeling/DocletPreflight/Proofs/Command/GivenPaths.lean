import DocletPreflight.Proofs.Command.Arguments
import DocletPreflight.Proofs.Lists
import DocletPreflight.Proofs.Text.Cuts
import DocletPreflight.Files

/-!
# Where paths come from

The paths of a request are not made up: each is read from a value that stands at the end of one of the
arguments, behind an equals sign or from its beginning on (`isFrom_of_parse`). A path whose names hold no
null character is not refused for one, and that is so of every path that is read from a text without one
(`fault?_ne_embeddedNul`).
-/

set_option autoImplicit false

namespace DocletPreflight

/-! ## Names without null characters -/

namespace NormalPath

/-- No name of a path holds a null character. -/
def NulFree (p : NormalPath) : Prop := ∀ name ∈ p.names, '\x00' ∉ name.toList

/-- A value without a NUL is a path without one. -/
theorem nulFree_parse {value : String} (h : '\x00' ∉ value.toList) : (parse value).NulFree := by
  intro name hname hnul
  obtain ⟨hmem, -⟩ := List.mem_filter.mp hname
  obtain ⟨-, -, hjoin⟩ := Text.split_eq_iff.mp (rfl : Text.split '/' value = _)
  rw [← hjoin, String.toList_intercalate] at h
  exact h (mem_intercalate_of_mem _ (List.mem_map_of_mem hmem) hnul)

/-- Collapsing the names of a path makes up none. -/
theorem mem_of_mem_collapse {names : List String} {name : String} (h : name ∈ collapse names) :
    name ∈ names := by
  have hkept : ∀ names kept : List String, name ∈ names.foldl
      (fun kept name => if name = ".." then kept.drop 1 else name :: kept) kept →
      name ∈ names ∨ name ∈ kept := by
    intro names
    induction names with
    | nil => exact fun kept hmem => .inr hmem
    | cons first rest ih =>
      intro kept hmem
      rw [List.foldl_cons] at hmem
      rcases ih _ hmem with hrest | hkept
      · exact .inl (List.mem_cons_of_mem _ hrest)
      · split at hkept
        · exact .inr (List.mem_of_mem_drop hkept)
        · rcases List.mem_cons.mp hkept with rfl | hkept
          · exact .inl List.mem_cons_self
          · exact .inr hkept
  rw [collapse, List.mem_reverse] at h
  exact (hkept names [] h).resolve_right (by simp)

/-- A path without a NUL stays so below a working directory without one. -/
theorem NulFree.absolute {workingDirectory : List String} {p : NormalPath} (h : p.NulFree)
    (hdirectory : ∀ name ∈ workingDirectory, '\x00' ∉ name.toList) :
    (p.absolute workingDirectory).NulFree := by
  intro name hname
  unfold NormalPath.absolute at hname
  split at hname
  · rcases List.mem_append.mp (mem_of_mem_collapse hname) with hmem | hmem
    · exact hdirectory name hmem
    · exact h name hmem
  · exact h name (mem_of_mem_collapse hname)

/-- The text of a path without a NUL has none in it. -/
theorem NulFree.not_mem_text {p : NormalPath} (h : p.NulFree) : '\x00' ∉ p.text.toList := by
  intro hnul
  unfold text at hnul
  split at hnul
  · exact absurd hnul (by decide)
  · rw [String.toList_append, String.toList_intercalate, List.mem_append] at hnul
    rcases hnul with hroot | hnames
    · exact absurd hroot (by cases p.root <;> decide)
    · rcases mem_of_mem_intercalate hnames with hslash | ⟨name, hname, hmem⟩
      · exact absurd hslash (by decide)
      · obtain ⟨n, hn, rfl⟩ := List.mem_map.mp hname
        exact h n hn hmem

/-- No path without a NUL is refused for one. -/
theorem NulFree.fault?_ne_embeddedNul {p : NormalPath} (h : p.NulFree) :
    p.fault? ≠ some .embeddedNul := by
  have hcontains : p.text.toList.contains '\x00' = false := by
    rw [List.contains_eq_mem, decide_eq_false_iff_not]
    exact h.not_mem_text
  unfold fault?
  rw [hcontains]
  split <;> simp

end NormalPath

/-! ## Values among arguments -/

/-- A path is from some arguments: its text is the end of one of them. -/
def GivenPath.IsFrom (arguments : List String) (g : GivenPath) : Prop :=
  ∃ argument ∈ arguments, ∃ value : String, value.toList <:+ argument.toList ∧ g = .ofValue value

/-- A path that comes from arguments comes from any arguments that contain these. -/
theorem GivenPath.IsFrom.mono {arguments more : List String} {g : GivenPath} (h : g.IsFrom arguments)
    (hsubset : arguments ⊆ more) : g.IsFrom more := by
  obtain ⟨argument, hargument, hvalue⟩ := h
  exact ⟨argument, hsubset hargument, hvalue⟩

/-- A path from arguments without null characters has none in its names. -/
theorem GivenPath.IsFrom.nulFree {arguments : List String} {p : NormalPath}
    (h : (GivenPath.path p).IsFrom arguments)
    (hplain : ∀ argument ∈ arguments, '\x00' ∉ argument.toList) : p.NulFree := by
  obtain ⟨argument, hargument, value, hvalue, hpath⟩ := h
  unfold ofValue at hpath
  split at hpath
  · cases hpath
  · cases hpath
    exact NormalPath.nulFree_parse fun hnul => hplain argument hargument (hvalue.subset hnul)

/-- The value of a long option is the end of the argument it stands in. -/
theorem Reading.suffix_of_ofLong {options : List ToolOption} {s : List Char} {o : ToolOption}
    {value : String} (h : ofLong options s = .ok (.long o (some value))) : value.toList <:+ s := by
  have hvalue : (if s.contains '=' then
      some (String.ofList (s.drop ((s.takeWhile (· ≠ '=')).length + 1))) else none) = some value := by
    unfold ofLong at h
    simp only at h
    split at h
    next named hnamed => exact (Reading.long.inj (Except.ok.inj h)).2
    next hnone =>
      split at h
      · unfold leftover at h
        split at h <;> cases h
      · exact (Reading.long.inj (Except.ok.inj h)).2
      · cases h
  split at hvalue
  · obtain rfl := Option.some.inj hvalue
    rw [String.toList_ofList]
    exact List.drop_suffix _ s
  · cases hvalue

/-- A value that is attached to an option is the end of the argument. -/
theorem Reading.suffix_of_ofArgument {options : List ToolOption} {argument : String} {o : ToolOption}
    {value : String} (h : ofArgument options argument = .ok (.long o (some value))) :
    value.toList <:+ argument.toList := by
  unfold ofArgument at h
  split at h
  next rest heq => exact heq ▸ suffix_of_ofLong h
  next c rest _ heq =>
    have hshort : ofShort options c rest = .long o (some value) := Except.ok.inj h
    unfold ofShort leftover at hshort
    split at hshort
    · split at hshort <;> cases hshort
    · split at hshort <;> cases hshort
  next => cases h

namespace Given

/-- All paths that were given are from some arguments. -/
def IsFrom (arguments : List String) (g : Given) : Prop :=
  ∀ path, g.logFile = some path ∨ g.model = some path → path.IsFrom arguments

variable {arguments : List String} {g taken : Given}

/-- Nothing given comes from any arguments. -/
theorem isFrom_nothing (arguments : List String) : nothing.IsFrom arguments := by
  rintro path (h | h) <;> cases h

/-- Setting a value from the end of an argument leaves all paths given by the arguments. -/
theorem IsFrom.setValue (h : g.IsFrom arguments) (o : ToolOption) {argument value : String}
    (hargument : argument ∈ arguments) (hvalue : value.toList <:+ argument.toList) :
    (g.setValue o value).IsFrom arguments := by
  have hnew : (GivenPath.ofValue value).IsFrom arguments := ⟨argument, hargument, value, hvalue, rfl⟩
  rintro path hpath
  cases o with
  | help => exact h path hpath
  | verbose => exact h path hpath
  | logFile =>
    rcases hpath with hpath | hpath
    · exact Option.some.inj hpath ▸ hnew
    · exact h path (.inr hpath)
  | model =>
    rcases hpath with hpath | hpath
    · exact h path (.inl hpath)
    · exact Option.some.inj hpath ▸ hnew

/-- Options without a value give no path. -/
theorem paths_takeAll {page : Page} {os : List ToolOption} (h : takeAll page os g = .ok taken) :
    taken.logFile = g.logFile ∧ taken.model = g.model := by
  induction os generalizing g with
  | nil =>
    cases h
    exact ⟨rfl, rfl⟩
  | cons o os ih =>
    rw [takeAll] at h
    split at h
    · cases h
    · obtain ⟨hlog, hmodel⟩ := ih h
      split at hlog <;> split at hmodel <;> exact ⟨hlog, hmodel⟩

/-- Options without a value leave all paths given by the arguments. -/
theorem IsFrom.of_takeAll {page : Page} {os : List ToolOption} (hg : g.IsFrom arguments)
    (h : takeAll page os g = .ok taken) : taken.IsFrom arguments := by
  obtain ⟨hlog, hmodel⟩ := paths_takeAll h
  intro path hpath
  rw [hlog, hmodel] at hpath
  exact hg path hpath

end Given

namespace Collected

variable {arguments : List String} {page : Page} {g : Given} {c : Collected}

/-- What was collected is from some arguments: the paths are, and what is left to a command is among them. -/
structure IsFrom (arguments : List String) (c : Collected) : Prop where
  given : c.given.IsFrom arguments
  rest : ∀ name rest, c.command = some (name, rest) → rest ⊆ arguments

/-- Readings of arguments: a value that is attached is the end of its argument. -/
def AreFrom (arguments : List String) (readings : List (String × Reading)) : Prop :=
  ∀ argument reading, (argument, reading) ∈ readings → argument ∈ arguments ∧
    ∀ o value, reading = .long o (some value) → value.toList <:+ argument.toList

/-- Readings of arguments are still theirs without the first. -/
theorem AreFrom.tail {first : String × Reading} {readings : List (String × Reading)}
    (h : AreFrom arguments (first :: readings)) : AreFrom arguments readings :=
  fun argument reading hmem => h argument reading (List.mem_cons_of_mem _ hmem)

/-- With readings of arguments, what is collected is from them. -/
theorem isFrom_of_ofReadings {extras : List String} {readings : List (String × Reading)}
    (hreadings : AreFrom arguments readings) (hg : g.IsFrom arguments)
    (h : ofReadings page g extras readings = .ok c) : c.IsFrom arguments := by
  -- what has been given stays from the arguments; the two cases of a value are where something is added
  fun_induction ofReadings page g extras readings with
  | case1 g extras =>
    cases h
    exact ⟨hg, by simp⟩
  | case2 g extras argument rest htop =>
    cases h
    refine ⟨hg, fun name others hcommand => ?_⟩
    cases hcommand
    intro other hother
    obtain ⟨⟨other, reading⟩, hmem, rfl⟩ := List.mem_map.mp hother
    exact (hreadings other reading (List.mem_cons_of_mem _ hmem)).1
  | case3 g extras argument rest htop ih => exact ih hreadings.tail hg h
  | case4 g extras argument rest ih => exact ih hreadings.tail hg h
  | case5 g extras argument o htakes value rest ih =>
    obtain ⟨hargument, hattached⟩ := hreadings _ _ List.mem_cons_self
    exact ih hreadings.tail (hg.setValue o hargument (hattached o value rfl)) h
  | case6 g extras argument o htakes value rest ih =>
    obtain ⟨hargument, -⟩ := hreadings.tail _ _ List.mem_cons_self
    exact ih hreadings.tail.tail (hg.setValue o hargument List.suffix_rfl) h
  | case7 | case8 | case10 | case11 | case13 => cases h
  | case9 g extras argument o rest htakes taken htaken ih =>
    exact ih hreadings.tail (hg.of_takeAll htaken) h
  | case12 g extras argument o attached rest found os hfound taken htaken ih =>
    exact ih hreadings.tail (hg.of_takeAll htaken) h

/-- All paths that are collected from a command line are given on it. -/
theorem isFrom_of_ofArguments (h : ofArguments page arguments = .ok c) : c.IsFrom arguments := by
  unfold ofArguments at h
  split at h
  · cases h
  next readings hreadings =>
    refine isFrom_of_ofReadings ?_ (Given.isFrom_nothing arguments) h
    intro argument reading hmem
    have hread := eq_ok_of_mem_zip hreadings hmem
    refine ⟨(List.of_mem_zip hmem).1, ?_⟩
    rintro o value rfl
    exact Reading.suffix_of_ofArgument hread

end Collected

namespace Request

/-- The listing that a filter works on is the one that was given. -/
theorem model_of_commandOf {page : Page} {g : Given} {path : GivenPath}
    (h : commandOf page g = .ok (.filter path)) : g.model = some path := by
  unfold commandOf at h
  split at h
  · split at h
    next model hmodel =>
      cases h
      exact hmodel
    · cases h
  · cases h

/-- A path that is asked for is from the arguments. -/
theorem isFrom_of_parse {arguments : List String} {request : Request} (h : parse arguments = .ok request)
    (path : GivenPath) (hpath : request.logFile = some path ∨ request.command = .filter path) :
    path.IsFrom arguments := by
  unfold parse at h
  obtain ⟨first, hfirst, h⟩ := bind_eq_ok h
  have hopening := Collected.isFrom_of_ofArguments hfirst
  split at h
  · cases h
  next name rest hcommand =>
    split at h
    · cases h
    next page hpage =>
      obtain ⟨second, hsecond, h⟩ := bind_eq_ok h
      obtain ⟨command, hasked, h⟩ := bind_eq_ok h
      have hbehind := Collected.isFrom_of_ofArguments hsecond
      have hrest := hopening.rest name rest hcommand
      simp only at h
      split at h
      · cases h
        rcases hpath with hlog | hfilter
        · rcases Option.or_eq_some_iff.mp hlog with hlog | ⟨-, hlog⟩
          · exact (hbehind.given path (.inl hlog)).mono hrest
          · exact hopening.given path (.inl hlog)
        · have hmodel := model_of_commandOf (hasked.trans (congrArg Except.ok hfilter))
          exact (hbehind.given path (.inr hmodel)).mono hrest
      · cases h

end Request

end DocletPreflight
