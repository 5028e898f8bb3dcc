import DocletPreflight.Proofs.Configuration.Tags
import DocletPreflight.Proofs.Text.Cuts

/-!
# Reading and writing tag definitions

A definition that can be written has a name and a scope without colons, and no title without a scope
(`TagDefinition.WellFormed`). These are the definitions that are read from texts: each text is read as the
one definition of this kind that is written as the text (`parse_eq_iff`). So no two texts are read alike, and
the names of tags, which are the keys that they get in a registry, have no colon (`get?_withTags_of_colon`).
`parse_inverse_render` puts these together.
-/

set_option autoImplicit false

namespace DocletPreflight

namespace TagDefinition

/-- The definition can be told from how it is written. -/
structure WellFormed (d : TagDefinition) : Prop where
  name : ':' ∉ d.name.toList
  scope : ∀ scope, d.scope = some scope → ':' ∉ scope.toList
  title : d.title ≠ none → d.scope ≠ none

/-- The colon is one character. -/
theorem colon_toList : ":".toList = [':'] := rfl

/-- What was read is written as it stood there. -/
theorem render_parse (text : String) : (parse text).render = text := by
  have hjoin := Text.rejoin_cutFirst ':' text.toList
  unfold parse
  split
  next name hcut =>
    rw [hcut] at hjoin
    rw [render, ← String.toList_inj, String.toList_ofList]
    exact hjoin
  next name rest hcut =>
    rw [hcut] at hjoin
    have hrest := Text.rejoin_cutFirst ':' rest
    rcases hsecond : Text.cutFirst ':' rest with ⟨scope, _ | title⟩
    all_goals
      rw [hsecond] at hrest
      simp only [render, Option.map_none, Option.map_some, ← String.toList_inj, String.toList_append,
        String.toList_ofList, colon_toList]
      rw [← hjoin, ← hrest]
      simp [Text.rejoin]

/-- The definition that is read from a text is well-formed. -/
theorem wellFormed_parse (text : String) : (parse text).WellFormed := by
  have hname := Text.not_mem_cutFirst ':' text.toList
  unfold parse
  split
  next name hcut =>
    rw [hcut] at hname
    refine ⟨by simpa using hname, nofun, fun h => absurd rfl h⟩
  next name rest hcut =>
    rw [hcut] at hname
    refine ⟨by simpa using hname, ?_, nofun⟩
    rintro scope heq
    obtain rfl := Option.some.inj heq
    simpa using Text.not_mem_cutFirst ':' rest

/-- A text without a colon is not cut. -/
theorem cutFirst_of_not_mem {text : String} (h : ':' ∉ text.toList) :
    Text.cutFirst ':' text.toList = (text.toList, none) :=
  Text.cutFirst_eq_iff.mpr ⟨h, rfl⟩

/-- A text is cut at the colon behind a beginning that has none. -/
theorem cutFirst_append {text : String} (h : ':' ∉ text.toList) (rest : String) :
    Text.cutFirst ':' (text ++ ":" ++ rest).toList = (text.toList, some rest.toList) :=
  Text.cutFirst_eq_iff.mpr ⟨h, by simp [Text.rejoin]⟩

/-- What can be told from how it is written is read as it was. -/
theorem WellFormed.parse_render {d : TagDefinition} (h : d.WellFormed) : parse d.render = d := by
  obtain ⟨name, scope, title⟩ := d
  cases scope with
  | none =>
    cases title with
    | some title => exact absurd rfl (h.title nofun)
    | none =>
      rw [render, parse, cutFirst_of_not_mem h.name]
      simp
  | some scope =>
    have hscope := h.scope scope rfl
    cases title with
    | none =>
      rw [render, parse, cutFirst_append h.name]
      simp [cutFirst_of_not_mem hscope]
    | some title =>
      have hrender : render ⟨name, some scope, some title⟩ = name ++ ":" ++ (scope ++ ":" ++ title) := by
        simp only [render, String.append_assoc]
      rw [hrender, parse, cutFirst_append h.name]
      simp only [cutFirst_append hscope, String.ofList_toList, Option.map_some]

/-- A text is read as the one definition that can be told from how it is written, and is written as the
text. -/
theorem parse_eq_iff {text : String} {d : TagDefinition} :
    parse text = d ↔ d.WellFormed ∧ d.render = text := by
  constructor
  · rintro rfl
    exact ⟨wellFormed_parse text, render_parse text⟩
  · rintro ⟨h, rfl⟩
    exact h.parse_render

/-- Different texts are read as different definitions. -/
theorem parse_injective : Function.Injective parse := by
  intro text other h
  rw [← render_parse text, h, render_parse]

end TagDefinition

/-! ## The keys of tags -/

/-- No name of a tag has a colon in it. -/
theorem not_mem_name_of_mem_tagNames {m : OptionMatrix} {name : String} (h : name ∈ m.tagNames) :
    ':' ∉ name.toList := by
  rw [← Build.map_name_definitions, Build.definitions, List.map_map, List.mem_map] at h
  obtain ⟨text, -, rfl⟩ := h
  exact (TagDefinition.wellFormed_parse text).name

/-- The tags of a matrix change nothing under a key with a colon. -/
theorem get?_withTags_of_colon {key : String} (h : ':' ∈ key.toList) (m : OptionMatrix) (r : Registry) :
    (Build.withTags (Build.definitions m) r).get? key = r.get? key := by
  have hkey : key ∉ m.tagNames := fun hname => not_mem_name_of_mem_tagNames hname h
  rw [Build.get?_withTags, Build.map_name_definitions, if_neg hkey]

/-- No standard key has a colon in it. -/
theorem not_mem_key_standard : ∀ key ∈ Registry.standard.keys, ':' ∉ key.toList := by decide

/-- Without classes to load, no key of the registry of a configuration has a colon. -/
theorem not_mem_key_of_build {env : Environment} {lookup : Encoding.Lookup} {m : OptionMatrix}
    {c : Configuration} (h : (build env lookup m).configuration = .ok (some c))
    (habsent : m.Absent .taglet) {key : String} (hkey : key ∈ c.taglets.keys) : ':' ∉ key.toList := by
  intro hcolon
  obtain ⟨t, hget⟩ := Registry.mem_keys_iff.mp hkey
  rw [taglets_of_build h habsent] at hget
  have hstandard : Registry.standard.get? key = some t :=
    (get?_withTags_of_colon hcolon m Registry.standard).symm.trans hget
  exact not_mem_key_standard key (Registry.mem_keys_of_get? hstandard) hcolon

/-! ## All together -/

/-- What was read as a tag definition is written as it stood there, and a definition is read as it was written
just when its name and its scope have no colon and it has no title without a scope. All definitions that are
read are of this kind, and texts that are read alike are the same. Tags therefore change nothing in a registry
under a key with a colon, and without classes to load a configuration has no such key. -/
theorem parse_inverse_render :
    (∀ text, (TagDefinition.parse text).render = text) ∧
    (∀ d : TagDefinition, TagDefinition.parse d.render = d ↔ d.WellFormed) ∧
    (∀ text, (TagDefinition.parse text).WellFormed) ∧
    (∀ text other, TagDefinition.parse text = TagDefinition.parse other ↔ text = other) ∧
    (∀ (m : OptionMatrix) (r : Registry) (key : String), ':' ∈ key.toList →
      (Build.withTags (Build.definitions m) r).get? key = r.get? key) ∧
    ∀ (env : Environment) (lookup : Encoding.Lookup) (m : OptionMatrix) (c : Configuration),
      (build env lookup m).configuration = .ok (some c) → m.Absent .taglet →
        ∀ key ∈ c.taglets.keys, ':' ∉ key.toList := by
  refine ⟨TagDefinition.render_parse, fun d => TagDefinition.parse_eq_iff.trans (and_iff_left rfl),
    TagDefinition.wellFormed_parse, ?_, ?_, ?_⟩
  · intro text other
    exact TagDefinition.parse_injective.eq_iff
  · intro m r key hcolon
    exact get?_withTags_of_colon hcolon m r
  · intro env lookup m c h habsent key hkey
    exact not_mem_key_of_build h habsent hkey

/-- A title with a colon, and a scope and a title that are empty. -/
def laterTags : OptionMatrix := [["-d", "out"], ["-tag", "todo:a:To do: later"], ["-tag", "::"]]

/-- Only the first two colons separate, an empty title is not a missing one, and neither brings a colon into
the registry. -/
theorem laterTags_read :
    TagDefinition.parse "todo:a:To do: later" = ⟨"todo", some "a", some "To do: later"⟩ ∧
      TagDefinition.parse "::" = ⟨"", some "", some ""⟩ ∧
      ¬TagDefinition.parse "::" = TagDefinition.parse ":" ∧
      ∃ c, (build .bare Encoding.lookup laterTags).configuration = .ok (some c) ∧
        "todo" ∈ c.taglets.keys ∧ ∀ key ∈ c.taglets.keys, ':' ∉ key.toList := by
  obtain ⟨-, hread, -, halike, -, hkeys⟩ := parse_inverse_render
  obtain ⟨c, hc⟩ : ∃ c, (build .bare Encoding.lookup laterTags).configuration = .ok (some c) := ⟨_, rfl⟩
  have habsent : laterTags.Absent .taglet := OptionMatrix.has_eq_false_iff.mp (by decide)
  have htodo : c.taglets.get? "todo" = some (.custom "todo" true none none) :=
    get?_tag_of_build hc habsent (by decide +kernel)
  have hlater : TagDefinition.WellFormed ⟨"todo", some "a", some "To do: later"⟩ :=
    ⟨by decide, by rintro scope ⟨⟩; decide, nofun⟩
  have hempty : TagDefinition.WellFormed ⟨"", some "", some ""⟩ :=
    ⟨by decide, by rintro scope ⟨⟩; decide, nofun⟩
  exact ⟨(hread _).mpr hlater, (hread _).mpr hempty, mt (halike "::" ":").mp (by decide), c, hc,
    Registry.mem_keys_of_get? htodo, hkeys _ _ _ c hc habsent⟩

end DocletPreflight
