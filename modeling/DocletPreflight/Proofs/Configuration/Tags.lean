import DocletPreflight.Proofs.Configuration.Report
import DocletPreflight.Proofs.Configuration.SeenAlike
import DocletPreflight.Proofs.Registry.Sealed
import DocletPreflight.Proofs.Registry.Seeding

/-!
# What the tags of a command line come to

Without classes to load, the registry of a configuration holds the standard taglets and, over them, the tags
of the command line. Of a tag only the name counts: under the name of each tag there is its custom tag, and
under every other key there is what there was (`get?_taglets_of_build`), while the keys are the standard ones
and then the new names, as they first occur (`keys_taglets_of_build`). Rows of tags may therefore be given in
another order, or again, and make a registry that compares equal (`build_of_retagged`). `tags_of_build` puts
these together.
-/

set_option autoImplicit false

namespace DocletPreflight

open OptionMatrix (rowValue?)

/-- The name of a tag: what stands before the first colon of its definition. -/
def tagName (text : String) : String := String.ofList (text.toList.takeWhile fun c => c ≠ ':')

namespace OptionMatrix

/-- The names of the tags that have a value, in order. -/
def tagNames (m : OptionMatrix) : List String := (m.values Flag.tag.text).map tagName

/-- The names that are no key of a standard taglet, each once, as they first occur. -/
def newTagNames (m : OptionMatrix) : List String :=
  (m.tagNames.filter fun name => name ∉ Taglet.standard.map Taglet.key).eraseDups

/-- Rows of tags stand in another order, in other places, or more or fewer times, and all other rows are the
same. -/
structure Retagged (m m' : OptionMatrix) : Prop where
  others : m.filter (fun row => row.head? ≠ some Flag.tag.text) =
    m'.filter fun row => row.head? ≠ some Flag.tag.text
  tags : ∀ row : List String, row.head? = some Flag.tag.text → (row ∈ m ↔ row ∈ m')

variable {m m' : OptionMatrix}

/-- The names of tags are those that rows of tags with a value begin with. -/
theorem mem_tagNames_iff {name : String} :
    name ∈ m.tagNames ↔ ∃ row ∈ m, row.head? = some Flag.tag.text ∧
      ∃ text, rowValue? row = some text ∧ tagName text = name := by
  simp only [tagNames, values, List.mem_map, List.mem_filterMap, List.mem_filter, named_iff]
  constructor
  · rintro ⟨text, ⟨row, ⟨hrow, hname⟩, hvalue⟩, htext⟩
    exact ⟨row, hrow, hname, text, hvalue, htext⟩
  · rintro ⟨row, hrow, hname, text, hvalue, htext⟩
    exact ⟨text, ⟨row, ⟨hrow, hname⟩, hvalue⟩, htext⟩

/-! ## Rows of tags that are rearranged -/

/-- The same tags are named when their rows are moved or repeated. -/
theorem Retagged.mem_tagNames_iff (h : Retagged m m') {name : String} :
    name ∈ m.tagNames ↔ name ∈ m'.tagNames := by
  rw [OptionMatrix.mem_tagNames_iff, OptionMatrix.mem_tagNames_iff]
  constructor
  · rintro ⟨row, hrow, hname, hvalue⟩
    exact ⟨row, (h.tags row hname).mp hrow, hname, hvalue⟩
  · rintro ⟨row, hrow, hname, hvalue⟩
    exact ⟨row, (h.tags row hname).mpr hrow, hname, hvalue⟩

/-- The rows of an option other than the tags are the same. -/
theorem Retagged.filter_named (h : Retagged m m') {flag : Flag} (hflag : flag ≠ .tag) :
    m.filter (named flag.text) = m'.filter (named flag.text) := by
  have hothers : ∀ m : OptionMatrix, m.filter (named flag.text) =
      (m.filter fun row => row.head? ≠ some Flag.tag.text).filter (named flag.text) := by
    intro m
    rw [List.filter_filter]
    refine List.filter_congr fun row _ => ?_
    by_cases hname : row.head? = some flag.text
    · have hne : flag.text ≠ Flag.tag.text := fun heq => hflag (Flag.text_injective heq)
      simp [named, hname, hne]
    · simp [named, hname]
  rw [hothers m, hothers m', h.others]

/-- Other options keep their first rows when rows of tags are moved or repeated. -/
theorem Retagged.find?_eq (h : Retagged m m') {flag : Flag} (hflag : flag ≠ .tag) :
    m.find? (named flag.text) = m'.find? (named flag.text) := by
  rw [← List.head?_filter, ← List.head?_filter, h.filter_named hflag]

/-- Other options are there or not as before when rows of tags are moved or repeated. -/
theorem Retagged.has_eq (h : Retagged m m') {flag : Flag} (hflag : flag ≠ .tag) :
    m.has flag.text = m'.has flag.text := by
  rw [OptionMatrix.has_eq, OptionMatrix.has_eq, h.find?_eq hflag]

/-- Other options keep their values when rows of tags are moved or repeated. -/
theorem Retagged.first?_eq (h : Retagged m m') {flag : Flag} (hflag : flag ≠ .tag) :
    m.first? flag.text = m'.first? flag.text := by
  rw [first?, first?, h.find?_eq hflag]

/-- No taglet classes come in when rows of tags are moved or repeated. -/
theorem Retagged.absent (h : Retagged m m') (habsent : m.Absent .taglet) : m'.Absent .taglet :=
  has_eq_false_iff.mp ((h.has_eq (by decide)).symm.trans (has_eq_false_iff.mpr habsent))

end OptionMatrix

variable {env : Environment} {lookup : Encoding.Lookup} {m m' : OptionMatrix} {c : Configuration}

/-! ## The registry -/

namespace Build

/-- The name of a tag is what stands before the first colon of its definition. -/
theorem name_parse (text : String) : (TagDefinition.parse text).name = tagName text := by
  unfold TagDefinition.parse
  split <;> next heq => rw [tagName, ← Text.fst_cutFirst, heq]

/-- The names of the definitions are the names of the tags. -/
theorem map_name_definitions (m : OptionMatrix) : (definitions m).map (·.name) = m.tagNames := by
  rw [definitions, OptionMatrix.tagNames, List.map_map]
  exact List.map_congr_left fun text _ => name_parse text

/-- Tags are put into a registry under their names, one after another. -/
theorem withTags_eq (ds : List TagDefinition) (r : Registry) :
    withTags ds r = Registry.putAll (ds.map fun d => (d.name, d.toEnabledTaglet)) r := by
  rw [withTags, Registry.putAll, List.foldl_map]

/-- Tags add their names to the keys of a registry, each of them once and where it first comes. -/
theorem keys_withTags (ds : List TagDefinition) (r : Registry) :
    (withTags ds r).keys = r.keys ++ ((ds.map (·.name)).filter fun name => name ∉ r.keys).eraseDups := by
  rw [withTags_eq, Registry.keys_putAll, List.map_map]
  rfl

/-- Under the name of a tag there is its custom tag, however the last definition of it goes on. -/
theorem get?_withTags (ds : List TagDefinition) (r : Registry) (key : String) :
    (withTags ds r).get? key =
      if key ∈ ds.map (·.name) then some (.custom key true none none) else r.get? key := by
  rw [withTags_eq, Registry.get?_putAll, ← List.map_reverse,
    Registry.lookup_map key TagDefinition.name TagDefinition.toEnabledTaglet]
  cases hlast : ds.reverse.find? fun d => d.name = key with
  | some d =>
    have hname : d.name = key := by simpa using List.find?_some hlast
    have hmem : d ∈ ds := by simpa using List.mem_of_find?_eq_some hlast
    rw [if_pos (List.mem_map.mpr ⟨d, hmem, hname⟩), ← hname]
    rfl
  | none =>
    have hnone : key ∉ ds.map (·.name) := by
      intro hmem
      obtain ⟨d, hd, hname⟩ := List.mem_map.mp hmem
      exact List.find?_eq_none.mp hlast d (List.mem_reverse.mpr hd) (by simpa using hname)
    rw [if_neg hnone, Option.map_none, Option.none_or]

/-- Without the option, no taglet class is loaded and nothing is reported. -/
theorem taglets_of_absent (h : m.Absent .taglet) (env : Environment) (r : Registry) :
    taglets env m r = (.ok r, []) := by
  unfold taglets
  rw [OptionMatrix.has_eq_false_iff.mpr h]
  rfl

/-- Without classes to load, the registry is the standard one with the tags. -/
theorem registry_of_absent (h : m.Absent .taglet) (env : Environment) :
    registry env m = .ok (withTags (definitions m) Registry.standard) := by
  rw [registry, taglets_of_absent h]

end Build

/-- The standard registry has the keys of the standard taglets. -/
theorem keys_standard : Registry.standard.keys = Taglet.standard.map Taglet.key := rfl

/-- Without classes to load, the registry of a configuration is the standard one with the tags. -/
theorem taglets_of_build (h : (build env lookup m).configuration = .ok (some c))
    (habsent : m.Absent .taglet) :
    c.taglets = (Build.withTags (Build.definitions m) Registry.standard).withFrozen true := by
  obtain ⟨directory, encoding, registry, -, -, hregistry, rfl⟩ := configuration_of_build h
  rw [Build.registry_of_absent habsent] at hregistry
  cases hregistry
  rfl

/-- A configuration without taglet classes has the standard keys and behind them the new tags. -/
theorem keys_taglets_of_build (h : (build env lookup m).configuration = .ok (some c))
    (habsent : m.Absent .taglet) :
    c.taglets.keys = Taglet.standard.map Taglet.key ++ m.newTagNames := by
  rw [taglets_of_build h habsent, ← keys_standard, OptionMatrix.newTagNames, ← keys_standard,
    ← Build.map_name_definitions]
  exact Build.keys_withTags _ _

/-- In a configuration without taglet classes, tags stand before the standard taglets. -/
theorem get?_taglets_of_build (h : (build env lookup m).configuration = .ok (some c))
    (habsent : m.Absent .taglet) (key : String) :
    c.taglets.get? key =
      if key ∈ m.tagNames then some (.custom key true none none) else Registry.standard.get? key := by
  rw [taglets_of_build h habsent, ← Build.map_name_definitions]
  exact Build.get?_withTags _ _ key

/-- In a configuration without taglet classes, each tag is a custom tag under its name. -/
theorem get?_tag_of_build (h : (build env lookup m).configuration = .ok (some c))
    (habsent : m.Absent .taglet) {name : String} (hname : name ∈ m.tagNames) :
    c.taglets.get? name = some (.custom name true none none) := by
  rw [get?_taglets_of_build h habsent, if_pos hname]

/-- No key stands twice in a configuration without taglet classes. -/
theorem nodup_keys_taglets_of_build (h : (build env lookup m).configuration = .ok (some c))
    (habsent : m.Absent .taglet) : c.taglets.keys.Nodup := by
  rw [taglets_of_build h habsent, Build.withTags_eq]
  exact Registry.nodup_keys_putAll _ rfl (Registry.nodup_keys_ofTaglets _)

/-- The standard registry finds just the standard taglets, under their own keys. -/
theorem get?_standard_iff {key : String} {t : Taglet} :
    Registry.standard.get? key = some t ↔ t ∈ Taglet.standard ∧ t.key = key :=
  Registry.get?_ofTaglets_iff Taglet.nodup_keys_standard

/-- Rows of tags that are rearranged make a registry that compares equal. -/
theorem build_of_retagged (h : (build env lookup m).configuration = .ok (some c))
    (habsent : m.Absent .taglet) (hretagged : m.Retagged m') :
    ∃ c', (build env lookup m').configuration = .ok (some c') ∧ c'.taglets.same c.taglets = true := by
  obtain ⟨directory, encoding, registry, hdirectory, hencoding, -⟩ := configuration_of_build h
  have habsent' := hretagged.absent habsent
  have hdirectory' : (Build.directory m').1 = some directory := by
    rw [← hdirectory, Build.directory, Build.directory, hretagged.has_eq (by decide),
      hretagged.first?_eq (by decide)]
  have hencoding' : (Build.encoding lookup m').1 = .ok (some encoding) := by
    rw [← hencoding, Build.encoding, Build.encoding, hretagged.has_eq (by decide),
      hretagged.first?_eq (by decide)]
  obtain ⟨c', hc'⟩ : ∃ c', (build env lookup m').configuration = .ok (some c') := by
    rw [build_of_settled (Prod.ext hdirectory' rfl) (Prod.ext hencoding' rfl)
      (Build.registry_of_absent habsent' env)]
    exact ⟨_, rfl⟩
  refine ⟨c', hc', (Registry.same_iff (nodup_keys_taglets_of_build hc' habsent')
    (nodup_keys_taglets_of_build h habsent)).mpr fun key => ?_⟩
  rw [get?_taglets_of_build hc' habsent', get?_taglets_of_build h habsent]
  simp only [hretagged.mem_tagNames_iff]

/-! ## What is told of the tags -/

/-- A notice that tells of a tag. -/
def isTagNotice (d : Diagnostic) : Bool :=
  d.channel = .notice && "Using Tag ".toList.isPrefixOf d.message.toList

/-- The notices about tags are all notices about tags. -/
theorem filter_isTagNotice_tags (names : List String) :
    ((names.map fun name => .notice ("Using Tag " ++ name)).filter isTagNotice) =
      names.map fun name => .notice ("Using Tag " ++ name) := by
  refine List.filter_eq_self.mpr fun d hd => ?_
  obtain ⟨name, -, rfl⟩ := List.mem_map.mp hd
  simp [isTagNotice, Diagnostic.notice]

section

variable {label : String} (hlength : "Using Tag ".toList.length ≤ label.toList.length)
  (hlabel : isTagNotice (.notice label) = false)
include hlength hlabel

/-- A notice with another label tells of no tag, when the label is long enough to differ. -/
theorem filter_isTagNotice_label (text : String) :
    [Diagnostic.notice (label ++ text)].filter isTagNotice = [] := by
  have hother : isTagNotice (.notice (label ++ text)) = false := by
    simp only [isTagNotice, Diagnostic.notice, decide_true, Bool.true_and, Bool.eq_false_iff, ne_eq,
      List.isPrefixOf_iff_prefix, String.toList_append] at hlabel ⊢
    intro hprefix
    exact hlabel (List.prefix_of_prefix_length_le hprefix (List.prefix_append _ _) hlength)
  rw [List.filter_cons, hother]
  rfl

/-- No notice about an option is one about a tag. -/
theorem ReportsOption.filter_isTagNotice {α : Type} {flag : Flag} {usable : String → Prop}
    {keep : String → α} {default kept : α} {ds : List Diagnostic}
    (h : ReportsOption m flag label usable keep default kept ds) : ds.filter isTagNotice = [] := by
  cases h with
  | absent h => rfl
  | kept hrow hvalue husable => exact filter_isTagNotice_label hlength hlabel _
  | ignored hrow hunusable reason => rfl

end

/-- No notice about the output directory is one about a tag. -/
theorem ReportsDirectory.filter_isTagNotice {directory : NormalPath} {ds : List Diagnostic}
    (h : ReportsDirectory m directory ds) : ds.filter isTagNotice = [] := by
  cases h with
  | given hrow hvalue hne => exact filter_isTagNotice_label (by decide) (by decide) _

/-- No notice about the encoding is one about a tag. -/
theorem ReportsEncoding.filter_isTagNotice {encoding : String} {ds : List Diagnostic}
    (h : ReportsEncoding lookup m encoding ds) : ds.filter isTagNotice = [] := by
  cases h with
  | absent h => rfl
  | known hrow hvalue hlookup => exact filter_isTagNotice_label (by decide) (by decide) _

/-- The notices that tell of tags tell of each tag that has a value, in order. -/
theorem filter_isTagNotice_of_build (h : (build env lookup m).configuration = .ok (some c))
    (habsent : m.Absent .taglet) :
    (build env lookup m).trace.diagnostics.filter isTagNotice =
      m.tagNames.map fun name => .notice ("Using Tag " ++ name) := by
  have haccounts := accounts_of_build h
  have htags : (Build.report env lookup m).tags =
      m.tagNames.map fun name => .notice ("Using Tag " ++ name) := by
    rw [haccounts.tags, OptionMatrix.tagNames, List.map_map]
    exact List.map_congr_left fun text _ => by rw [Build.name_parse]; rfl
  have htaglets : (Build.report env lookup m).taglets = [] := by
    rw [Build.report, Build.taglets_of_absent habsent]
    rfl
  rw [diagnostics_of_build h, Report.all]
  simp only [List.filter_append, haccounts.directory.filter_isTagNotice,
    haccounts.encoding.filter_isTagNotice,
    haccounts.fileName.filter_isTagNotice (by decide) (by decide),
    haccounts.superclass.filter_isTagNotice (by decide) (by decide),
    haccounts.annotationType.filter_isTagNotice (by decide) (by decide),
    haccounts.interface.filter_isTagNotice (by decide) (by decide),
    htags, filter_isTagNotice_tags, htaglets, List.append_nil, List.nil_append]

/-! ## All together -/

/-- The last line of a description counts the taglets. -/
theorem getLast?_describe (c : Configuration) :
    c.describe.getLast? = some ("Taglets: " ++ toString c.taglets.size) :=
  List.getLast?_concat

/-- Without classes to load, the keys of the registry of a configuration are those of the standard taglets,
and then the names of the tags that are none of these, each once and as they first occur. Under the name of a
tag there is its custom tag, which has neither scope nor title, and the standard taglets that no tag is named
after are still there. The tags are told one by one, and the last line of the description counts the standard
keys and the new names. Rows of tags that are rearranged or repeated make a registry that compares equal. -/
theorem tags_of_build (h : (build env lookup m).configuration = .ok (some c))
    (habsent : m.Absent .taglet) :
    c.taglets.keys = Taglet.standard.map Taglet.key ++ m.newTagNames ∧
    (∀ name ∈ m.tagNames, c.taglets.get? name = some (.custom name true none none)) ∧
    (∀ t ∈ Taglet.standard, t.key ∉ m.tagNames → c.taglets.get? t.key = some t) ∧
    (build env lookup m).trace.diagnostics.filter isTagNotice =
      m.tagNames.map (fun name => .notice ("Using Tag " ++ name)) ∧
    c.describe.getLast? =
      some ("Taglets: " ++ toString (Taglet.standard.length + m.newTagNames.length)) ∧
    ∀ m', m.Retagged m' →
      ∃ c', (build env lookup m').configuration = .ok (some c') ∧ c'.taglets.same c.taglets = true := by
  have hkeys := keys_taglets_of_build h habsent
  refine ⟨hkeys, ?_, ?_, filter_isTagNotice_of_build h habsent, ?_, ?_⟩
  · intro name hname
    exact get?_tag_of_build h habsent hname
  · intro t ht hname
    rw [get?_taglets_of_build h habsent, if_neg hname, get?_standard_iff.mpr ⟨ht, rfl⟩]
  · have hsize : c.taglets.size = Taglet.standard.length + m.newTagNames.length := by
      rw [← List.length_map Taglet.key, ← List.length_append, ← hkeys]
      exact (List.length_map _).symm
    rw [getLast?_describe, hsize]
  · intro m' hretagged
    exact build_of_retagged h habsent hretagged

/-- Tags of which one has the name of a standard tag, one has no name, and one is defined twice. -/
def fiveTags : OptionMatrix :=
  [["-tag", "todo:a:To do"], ["-d", "out"], ["-tag", "see:X"], ["-tag", ":t"], ["-tag", "todo:m"],
    ["-tag"], ["-tag", "@note"]]

/-- The same tags in another order, one of them once more. -/
def fiveTagsAgain : OptionMatrix :=
  [["-tag"], ["-tag", "@note"], ["-tag", ":t"], ["-d", "out"], ["-tag", "todo:m"], ["-tag", "see:X"],
    ["-tag", "todo:a:To do"], ["-tag", "@note"]]

/-- There are three new names among them, and either matrix makes the same of them. -/
theorem fiveTags_configured :
    ∃ c c', (build .bare Encoding.lookup fiveTags).configuration = .ok (some c) ∧
      (build .bare Encoding.lookup fiveTagsAgain).configuration = .ok (some c') ∧
      c.taglets.keys = Taglet.standard.map Taglet.key ++ ["todo", "", "@note"] ∧
      c.taglets.get? "see" = some (.custom "see" true none none) ∧
      c.taglets.get? "@link" = some (.inline "link") ∧
      c.describe.getLast? = some "Taglets: 22" ∧ c'.taglets.same c.taglets = true := by
  obtain ⟨c, hc⟩ : ∃ c, (build .bare Encoding.lookup fiveTags).configuration = .ok (some c) := ⟨_, rfl⟩
  have habsent : fiveTags.Absent .taglet :=
    OptionMatrix.has_eq_false_iff.mp (by decide)
  have hnew : fiveTags.newTagNames = ["todo", "", "@note"] := by decide +kernel
  have hretagged : fiveTags.Retagged fiveTagsAgain := by
    refine ⟨by decide, fun row _ => ?_⟩
    simp only [fiveTags, fiveTagsAgain, List.mem_cons, List.not_mem_nil, or_false]
    tauto
  obtain ⟨hkeys, htags, hstandard, -, hlast, hagain⟩ := tags_of_build hc habsent
  obtain ⟨c', hc', hsame⟩ := hagain fiveTagsAgain hretagged
  refine ⟨c, c', hc, hc', by rw [hkeys, hnew], htags "see" (by decide +kernel),
    hstandard (.inline "link") (by decide) (by decide +kernel), ?_, hsame⟩
  rw [hlast, hnew]
  rfl

end DocletPreflight
