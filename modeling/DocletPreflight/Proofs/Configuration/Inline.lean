import DocletPreflight.Proofs.Configuration.Tags

/-!
# Inline tags and the keys of a registry

Inline tags are kept under keys with an at sign in front, and block tags under their bare names. A key tells
the two apart as long as no name has an at sign in front itself (`isInlineKey_key_iff`). The standard names
have none, but the tags of a command line are block tags that may have any name: one that has the name
`@link` stands where the standard inline tag was (`atSign_displaces_inline`). The keys of a configuration
therefore tell its inline tags just when no tag has such a name. `inlineTags_of_build` says this, and what
there is in any case.
-/

set_option autoImplicit false

namespace DocletPreflight

/-- The key has the sign of inline tags in front. -/
def IsInlineKey (key : String) : Prop := key.toList.head? = some '@'

instance (key : String) : Decidable (IsInlineKey key) :=
  inferInstanceAs (Decidable (key.toList.head? = some '@'))

/-- The inline taglets are those whose key has an at sign in front, and the standard ones are in place. -/
structure Registry.KeepsInlineApart (r : Registry) : Prop where
  inline_iff : ∀ key t, r.get? key = some t → (t.isInline = true ↔ IsInlineKey key)
  standard : ∀ t ∈ Taglet.standardInline, r.get? t.key = some t

namespace Taglet

/-- The key of a taglet with an ordinary name has an at sign just when the taglet is inline. -/
theorem isInlineKey_key_iff {t : Taglet} (h : ¬IsInlineKey t.name) :
    IsInlineKey t.key ↔ t.isInline = true := by
  unfold key
  cases hinline : t.isInline with
  | true => simp [IsInlineKey]
  | false => simpa using h

/-- No standard taglet has an at sign in front of its name. -/
theorem name_standard : ∀ t ∈ standard, ¬IsInlineKey t.name := by decide

/-- The keys of the standard inline taglets have the at sign. -/
theorem isInlineKey_key_standardInline : ∀ t ∈ standardInline, IsInlineKey t.key := by decide

/-- No standard taglet is a custom tag. -/
theorem ne_custom_of_mem_standard {t : Taglet} (h : t ∈ standard) (tag : String) (enabled : Bool)
    (scope title : Option String) : t ≠ .custom tag enabled scope title := by
  have hmade : ∀ u ∈ standard, (∃ tag scopes, u = .block tag scopes) ∨ ∃ tag, u = .inline tag := by
    simp [standard, standardBlock, standardInline]
  rcases hmade t h with ⟨_, _, rfl⟩ | ⟨_, rfl⟩ <;> exact nofun

end Taglet

variable {env : Environment} {lookup : Encoding.Lookup} {m : OptionMatrix} {c : Configuration}

section

variable (h : (build env lookup m).configuration = .ok (some c)) (habsent : m.Absent .taglet)
include h habsent

/-- A taglet of a built configuration is inline just when its key has the at sign and is no tag's name. -/
theorem isInline_iff_of_build {key : String} {t : Taglet} (hget : c.taglets.get? key = some t) :
    t.isInline = true ↔ IsInlineKey key ∧ key ∉ m.tagNames := by
  rw [get?_taglets_of_build h habsent] at hget
  by_cases hkey : key ∈ m.tagNames
  · rw [if_pos hkey] at hget
    cases hget
    simp [Taglet.isInline, hkey]
  · rw [if_neg hkey] at hget
    obtain ⟨ht, rfl⟩ := get?_standard_iff.mp hget
    rw [Taglet.isInlineKey_key_iff (Taglet.name_standard t ht)]
    exact (and_iff_left hkey).symm

/-- A standard taglet is displaced just by a tag that has its key as a name. -/
theorem get?_standard_iff_of_build {t : Taglet} (ht : t ∈ Taglet.standard) :
    c.taglets.get? t.key = some t ↔ t.key ∉ m.tagNames := by
  rw [get?_taglets_of_build h habsent, get?_standard_iff.mpr ⟨ht, rfl⟩]
  by_cases hkey : t.key ∈ m.tagNames
  · have hne := Taglet.ne_custom_of_mem_standard ht t.key true none none
    simp [hkey, hne.symm]
  · simp [hkey]

/-- A built configuration keeps inline taglets apart just when no tag's name has the at sign. -/
theorem keepsInlineApart_iff_of_build :
    c.taglets.KeepsInlineApart ↔ ∀ name ∈ m.tagNames, ¬IsInlineKey name := by
  constructor
  · -- a tag is no inline tag, so its key has no at sign
    intro hapart name hname hsign
    have htag := get?_tag_of_build h habsent hname
    exact Bool.false_ne_true ((hapart.inline_iff name _ htag).mpr hsign)
  · intro hnames
    have hfree : ∀ {key : String}, IsInlineKey key → key ∉ m.tagNames := fun hsign hname =>
      hnames _ hname hsign
    refine ⟨fun key t hget => ?_, fun t ht => ?_⟩
    · rw [isInline_iff_of_build h habsent hget]
      exact and_iff_left_of_imp hfree
    · have hstandard : t ∈ Taglet.standard := List.mem_append_right _ ht
      exact (get?_standard_iff_of_build h habsent hstandard).mpr
        (hfree (Taglet.isInlineKey_key_standardInline t ht))

end

/-- Without classes to load, the keys of the registry of a configuration tell its inline tags, and each
standard inline tag is in place, just when no tag has a name with an at sign in front. In any case the inline
taglets are those under a key with an at sign that is no tag's name, a standard taglet is displaced just by a
tag that has its key as a name, and under the name of a tag there is its custom tag. -/
theorem inlineTags_of_build (h : (build env lookup m).configuration = .ok (some c))
    (habsent : m.Absent .taglet) :
    (c.taglets.KeepsInlineApart ↔ ∀ name ∈ m.tagNames, ¬IsInlineKey name) ∧
    (∀ key t, c.taglets.get? key = some t →
      (t.isInline = true ↔ IsInlineKey key ∧ key ∉ m.tagNames)) ∧
    (∀ t ∈ Taglet.standard, c.taglets.get? t.key = some t ↔ t.key ∉ m.tagNames) ∧
    ∀ name ∈ m.tagNames, c.taglets.get? name = some (.custom name true none none) := by
  refine ⟨keepsInlineApart_iff_of_build h habsent, ?_, ?_, ?_⟩
  · intro key t hget
    exact isInline_iff_of_build h habsent hget
  · intro t ht
    exact get?_standard_iff_of_build h habsent ht
  · intro name hname
    exact get?_tag_of_build h habsent hname

/-- A tag with the name of a standard block tag, one with the bare name of an inline tag, and one without
a name. -/
def bareNames : OptionMatrix := [["-d", "out"], ["-tag", "since"], ["-tag", "link:m"], ["-tag", ":a"]]

/-- The block tag is displaced, and the inline tag of the same bare name is not. -/
theorem bareNames_keep_inline :
    ∃ c, (build .bare Encoding.lookup bareNames).configuration = .ok (some c) ∧
      c.taglets.KeepsInlineApart ∧ c.taglets.get? "@link" = some (.inline "link") ∧
      c.taglets.get? "link" = some (.custom "link" true none none) ∧
      ¬c.taglets.get? "since" = some (.block "since" .full) := by
  obtain ⟨c, hc⟩ : ∃ c, (build .bare Encoding.lookup bareNames).configuration = .ok (some c) := ⟨_, rfl⟩
  have habsent : bareNames.Absent .taglet :=
    OptionMatrix.has_eq_false_iff.mp (by decide)
  have hnames : bareNames.tagNames = ["since", "link", ""] := by decide +kernel
  obtain ⟨hapart, -, hstandard, htags⟩ := inlineTags_of_build hc habsent
  rw [hnames] at hapart hstandard htags
  refine ⟨c, hc, hapart.mpr (by decide), (hstandard (.inline "link") (by decide)).mpr (by decide),
    htags "link" (by decide), fun hget => ?_⟩
  exact (hstandard (.block "since" .full) (by decide)).mp hget (by decide)

/-- Not every tag leaves the inline tags in place: one that is named after the key of an inline tag takes
that key. -/
theorem atSign_displaces_inline :
    ¬∀ (env : Environment) (lookup : Encoding.Lookup) (m : OptionMatrix) (c : Configuration),
      (build env lookup m).configuration = .ok (some c) → m.Absent .taglet →
        c.taglets.KeepsInlineApart := by
  intro h
  have habsent : OptionMatrix.Absent [["-d", "out"], ["-tag", "@link"]] .taglet :=
    OptionMatrix.has_eq_false_iff.mp (by decide)
  obtain ⟨c, hc⟩ : ∃ c, (build .bare Encoding.lookup [["-d", "out"], ["-tag", "@link"]]).configuration =
      .ok (some c) := ⟨_, rfl⟩
  have hnames := (keepsInlineApart_iff_of_build hc habsent).mp (h _ _ _ c hc habsent)
  exact hnames "@link" (by decide +kernel) (by decide)

end DocletPreflight
