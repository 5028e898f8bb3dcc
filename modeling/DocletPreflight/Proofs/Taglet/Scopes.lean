import DocletPreflight.Taglet
import Mathlib.Tactic.Common

/-!
# Scope expressions

A scope expression that is not empty and is no scope's name is read letter by letter
(`ScopeSet.IsCodes`). Which scopes it stands for depends on the letters that occur in it and on nothing else:
none of them if there is an `X`, and otherwise those whose letter there is, or all if there is an `a`
(`contains_ofCodes`). So the letters of two expressions one after the other stand for the scopes of both
(`ofCodes_append`), and letters that are added take no scope away. `parse_by_codes` puts these together.
-/

set_option autoImplicit false

namespace DocletPreflight

namespace Scope

/-- A text is no name of a scope just when it differs from all of them. -/
theorem ofName?_eq_none_iff {text : String} : ofName? text = none ↔ ∀ s : Scope, s.name ≠ text := by
  constructor
  · rintro h s rfl
    rw [ofName?_name] at h
    cases h
  · intro h
    cases hname : ofName? text with
    | none => rfl
    | some s => exact absurd (name_of_ofName? hname) (h s)

end Scope

namespace ScopeSet

/-- A scope expression that is read letter by letter: it is not empty, and no scope's name. -/
structure IsCodes (text : String) : Prop where
  ne_empty : text ≠ ""
  ne_name : ∀ s : Scope, s.name ≠ text

instance (text : String) : Decidable (IsCodes text) :=
  decidable_of_iff (text ≠ "" ∧ ∀ s ∈ Scope.all, s.name ≠ text)
    ⟨fun h => ⟨h.1, fun s => h.2 s (Scope.mem_all s)⟩, fun h => ⟨h.ne_empty, fun s _ => h.ne_name s⟩⟩

/-- A character that means something where letters are read. -/
def IsCode (c : Char) : Prop := c = 'X' ∨ c = 'a' ∨ ∃ s : Scope, s.code = c

/-! ## Membership -/

/-- The full set contains every scope. -/
@[simp]
theorem contains_full (s : Scope) : full.contains s = true := contains_ofPred _ s

/-- The empty set contains no scope. -/
@[simp]
theorem contains_empty (s : Scope) : empty.contains s = false := contains_ofPred _ s

/-- A union contains what either set contains. -/
@[simp]
theorem contains_union (a b : ScopeSet) (s : Scope) :
    (a.union b).contains s = (a.contains s || b.contains s) := contains_ofPred _ s

/-- Of all texts only the names of its scopes are in a set. -/
theorem containsName_iff {set : ScopeSet} {text : String} :
    set.containsName text = true ↔ ∃ s : Scope, s.name = text ∧ set.contains s = true := by
  unfold containsName
  constructor
  · intro h
    cases hname : Scope.ofName? text with
    | none =>
      rw [hname] at h
      cases h
    | some s =>
      rw [hname] at h
      exact ⟨s, Scope.name_of_ofName? hname, h⟩
  · rintro ⟨s, rfl, hs⟩
    rw [Scope.ofName?_name]
    exact hs

/-- The names of a set are names of scopes. -/
theorem names_subset (set : ScopeSet) : set.names ⊆ Scope.all.map Scope.name := by
  intro name hname
  obtain ⟨s, -, rfl⟩ := List.mem_map.mp hname
  exact List.mem_map_of_mem (Scope.mem_all s)

/-! ## Letters -/

/-- The scopes that letters stand for, by the letters that occur. -/
theorem contains_ofCodes {codes : List Char} {s : Scope} :
    (ofCodes codes).contains s = true ↔ 'X' ∉ codes ∧ ('a' ∈ codes ∨ s.code ∈ codes) := by
  unfold ofCodes
  by_cases hX : 'X' ∈ codes
  · simp [hX]
  · by_cases ha : 'a' ∈ codes <;> simp [hX, ha]

/-- Codes behind codes stand for the union of both sets, unless an `X` among them makes it empty. -/
theorem ofCodes_append (u v : List Char) :
    ofCodes (u ++ v) =
      if 'X' ∈ u ∨ 'X' ∈ v then empty else (ofCodes u).union (ofCodes v) := by
  refine ext_contains fun s => ?_
  rw [Bool.eq_iff_iff, contains_ofCodes, List.mem_append, List.mem_append, List.mem_append]
  split
  next hX => simp [hX]
  next hX =>
    rw [not_or] at hX
    rw [contains_union, Bool.or_eq_true, contains_ofCodes, contains_ofCodes]
    tauto

/-- Letters that mean nothing, their order and repetitions make no difference. -/
theorem ofCodes_congr {u v : List Char} (h : ∀ c, IsCode c → (c ∈ u ↔ c ∈ v)) :
    ofCodes u = ofCodes v := by
  refine ext_contains fun s => ?_
  rw [Bool.eq_iff_iff, contains_ofCodes, contains_ofCodes, h 'X' (.inl rfl), h 'a' (.inr (.inl rfl)),
    h s.code (.inr (.inr ⟨s, rfl⟩))]

/-- Letters that are added take no scope away, unless there is an `X` among them. -/
theorem contains_ofCodes_mono {u v : List Char} (hX : 'X' ∉ v) (h : ∀ c ∈ u, c ∈ v) {s : Scope}
    (hs : (ofCodes u).contains s = true) : (ofCodes v).contains s = true := by
  rw [contains_ofCodes] at hs ⊢
  exact ⟨hX, hs.2.imp (h 'a') (h s.code)⟩

/-- An expression of codes is read by them. -/
theorem IsCodes.parse_eq {text : String} (h : IsCodes text) :
    parse (some text) = ofCodes text.toList := by
  rw [parse, if_neg h.ne_empty, Scope.ofName?_eq_none_iff.mpr h.ne_name]

/-- A custom tag is in a scope just when its expression contains the scope of that name. -/
theorem inScope_custom_iff {tag : String} {enabled : Bool} {expression title : Option String}
    {name : String} :
    (Taglet.custom tag enabled expression title).inScope name = true ↔
      ∃ s : Scope, s.name = name ∧ (parse expression).contains s = true :=
  containsName_iff

/-! ## All together -/

/-- What a scope expression stands for are scopes, and a custom tag may stand in a place just when the place
is called by the name of one of them. Two texts of letters, one after the other, stand for no scope if there
is an `X` in one of them, and otherwise for the scopes of both, unless they spell a scope's name together.
Texts of letters in which the same of the meaningful letters occur stand for the same scopes, and letters that
are added take no scope away as long as there is no `X`. -/
theorem parse_by_codes :
    (∀ expression, (parse expression).names ⊆ Scope.all.map Scope.name) ∧
    (∀ tag enabled expression title name,
      (Taglet.custom tag enabled expression title).inScope name = true ↔
        ∃ s : Scope, s.name = name ∧ (parse expression).contains s = true) ∧
    (∀ u v : String, IsCodes u → IsCodes v → IsCodes (u ++ v) →
      parse (some (u ++ v)) =
        if 'X' ∈ u.toList ∨ 'X' ∈ v.toList then empty
        else (parse (some u)).union (parse (some v))) ∧
    (∀ u v : String, IsCodes u → IsCodes v →
      (∀ c, IsCode c → (c ∈ u.toList ↔ c ∈ v.toList)) → parse (some u) = parse (some v)) ∧
    ∀ u v : String, IsCodes u → IsCodes v → 'X' ∉ v.toList → (∀ c ∈ u.toList, c ∈ v.toList) →
      ∀ s, (parse (some u)).contains s = true → (parse (some v)).contains s = true := by
  refine ⟨fun _ => names_subset _, fun _ _ _ _ _ => inScope_custom_iff, ?_, ?_, ?_⟩
  · intro u v hu hv huv
    rw [huv.parse_eq, hu.parse_eq, hv.parse_eq, String.toList_append]
    exact ofCodes_append u.toList v.toList
  · intro u v hu hv h
    rw [hu.parse_eq, hv.parse_eq]
    exact ofCodes_congr h
  · intro u v hu hv hX h s hs
    rw [hu.parse_eq] at hs
    rw [hv.parse_eq]
    exact contains_ofCodes_mono hX h hs

/-- Letters are read one after the other as long as they spell no name: with one more letter they would, and
that name is one scope only. -/
theorem method_by_codes :
    parse (some "method") = (parse (some "meth")).union (parse (some "od")) ∧
      parse (some "methods") ≠ (parse (some "meth")).union (parse (some "ods")) ∧
      parse (some "Xmeth") = empty ∧
      parse (some "method") = parse (some "zoom-t") ∧
      (Taglet.custom "todo" true (some "method") none).inScope "types" = true ∧
      (∀ s, (parse (some "meth")).contains s = true → (parse (some "method")).contains s = true) := by
  obtain ⟨-, hplace, happend, hcongr, hmono⟩ := parse_by_codes
  have hmeth : IsCodes "meth" := by decide
  have hod : IsCodes "od" := by decide
  have hmethod : IsCodes "method" := by decide
  refine ⟨?_, by decide, ?_, ?_, ?_, ?_⟩
  · have hboth := happend "meth" "od" hmeth hod hmethod
    rwa [if_neg (by decide)] at hboth
  · have hboth := happend "X" "meth" (by decide) hmeth (by decide)
    rwa [if_pos (by decide)] at hboth
  · refine hcongr "method" "zoom-t" hmethod (by decide) ?_
    rintro c (rfl | rfl | ⟨s, rfl⟩)
    · decide
    · decide
    · cases s <;> decide
  · exact (hplace _ _ _ _ _).mpr ⟨.types, rfl, by decide⟩
  · have hletters : "meth".toList <+: "method".toList := by decide
    exact hmono "meth" "method" hmeth hmethod (by decide) fun c hc => hletters.subset hc

end ScopeSet

end DocletPreflight
