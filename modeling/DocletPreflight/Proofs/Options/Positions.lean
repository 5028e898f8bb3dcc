import DocletPreflight.Proofs.Options.Grouping
import DocletPreflight.Proofs.Options.Rows
import Mathlib.Data.List.Forall2

/-!
# Options by their positions

Whether a token is an option depends on all the tokens before it: an option stands where whole groups end
(`OptionMatrix.StandsAt`), and a token that looks like one may be the value of another. Grouping an argument
list meets these positions from left to right and makes one row at each (`exists_positions`). A whole group
in front of a list moves the positions of the list by its length and adds one of its own
(`isOptionPosition_append_iff`), which is the step of the induction.

So the accessors of the matrix read tokens of the list: the rows of a name are the positions at which it
stands, and their values are the tokens behind these positions. Only the end of the list has none behind it
(`accessors_of_group`).
-/

set_option autoImplicit false

namespace DocletPreflight

/-- A name stands for an option with a value when the option takes up two tokens. -/
def TakesValue (name : String) : Prop := optionLength name = 2

instance (name : String) : Decidable (TakesValue name) :=
  inferInstanceAs (Decidable (optionLength name = 2))

namespace OptionMatrix

/-- An option of a name stands at a position: one is due there, and it is that name. -/
def StandsAt (argv : List String) (name : String) (k : Nat) : Prop :=
  IsOptionPosition argv k ∧ argv[k]? = some name

/-- Numbers in increasing order are all those with a property. -/
structure Enumerates (ks : List Nat) (P : Nat → Prop) : Prop where
  ordered : ks.Pairwise (· < ·)
  mem_iff : ∀ k, k ∈ ks ↔ P k

/-- A row is what is read at a position: the token there and, if that takes a value, the one behind it. -/
structure IsReadAt (argv : List String) (k : Nat) (row : List String) : Prop where
  head?_eq : row.head? = argv[k]?
  value?_eq : ∀ name, argv[k]? = some name → TakesValue name → rowValue? row = argv[k + 1]?

variable {argv row rest : List String} {m rows : OptionMatrix} {name value : String} {ks : List Nat}
  {k : Nat} {P : Nat → Prop}

/-! ## Positions behind whole groups -/

/-- A whole group is not empty. -/
theorem IsWhole.length_pos (h : IsWhole row) : 0 < row.length := by
  obtain ⟨name, hoption, -, hlength⟩ := h
  exact hlength ▸ hoption

/-- A list starts with one whole group at most. -/
theorem IsWhole.eq_of_append {row' rest' : List String} (h : IsWhole row) (h' : IsWhole row')
    (heq : row ++ rest = row' ++ rest') : row = row' := by
  obtain ⟨name, -, hhead, hlength⟩ := h
  obtain ⟨name', -, hhead', hlength'⟩ := h'
  obtain ⟨tail, rfl⟩ := List.head?_eq_some_iff.mp hhead
  obtain ⟨tail', rfl⟩ := List.head?_eq_some_iff.mp hhead'
  obtain rfl : name = name' := (List.cons.inj heq).1
  exact List.append_inj_left heq (hlength.trans hlength'.symm)

/-- With a whole group in front, an option is due at the beginning and where one is due in the rest. -/
theorem isOptionPosition_append_iff (hrow : IsWhole row) :
    IsOptionPosition (row ++ rest) k ↔ k = 0 ∨ ∃ j, k = row.length + j ∧ IsOptionPosition rest j := by
  constructor
  · rintro ⟨hk, rows, hrows, htake⟩
    cases rows with
    | nil =>
      rw [List.flatten_nil, List.take_eq_nil_iff] at htake
      rcases htake with hzero | hnil
      · exact .inl hzero
      · rw [hnil] at hk
        exact absurd hk (Nat.not_lt_zero k)
    | cons first others =>
      rw [List.flatten_cons] at htake
      -- the first of the groups before the position is the one in front
      have hsplit : row ++ rest = first ++ (others.flatten ++ (row ++ rest).drop k) := by
        rw [← List.append_assoc, ← htake, List.take_append_drop]
      obtain rfl := hrow.eq_of_append (hrows first (by simp)) hsplit
      have hrest : rest = others.flatten ++ (row ++ rest).drop k := List.append_cancel_left hsplit
      have hlength := congrArg List.length htake
      rw [List.length_take_of_le (Nat.le_of_lt hk), List.length_append] at hlength
      refine .inr ⟨others.flatten.length, hlength, ?_, others, fun r hr => hrows r (by simp [hr]), ?_⟩
      · rw [hlength, List.length_append] at hk
        omega
      · conv_lhs => rw [hrest]
        exact List.take_left ..
  · rintro (rfl | ⟨j, rfl, hj, rows, hrows, htake⟩)
    · refine ⟨?_, [], by simp, by simp⟩
      rw [List.length_append]
      have hpos := hrow.length_pos
      omega
    · refine ⟨by rw [List.length_append]; omega, row :: rows, ?_, ?_⟩
      · intro r hr
        rcases List.mem_cons.mp hr with rfl | hr
        · exact hrow
        · exact hrows r hr
      · rw [List.take_length_add_append, htake, List.flatten_cons]

/-- Whole groups in front move the positions of options by their length. -/
theorem isOptionPosition_flatten_append_iff (hrows : ∀ row ∈ rows, IsWhole row) :
    IsOptionPosition (rows.flatten ++ rest) (rows.flatten.length + k) ↔ IsOptionPosition rest k := by
  induction rows with
  | nil => simp
  | cons row rows ih =>
    have hrow := hrows row (by simp)
    rw [List.flatten_cons, List.append_assoc, isOptionPosition_append_iff hrow, List.length_append,
      Nat.add_assoc, ← ih fun r hr => hrows r (by simp [hr])]
    constructor
    · rintro (hzero | ⟨j, hj, h⟩)
      · have hpos := hrow.length_pos
        omega
      · rwa [Nat.add_left_cancel hj]
    · exact fun h => .inr ⟨_, rfl, h⟩

/-- The value that an option takes is never an option itself. -/
theorem StandsAt.not_isOptionPosition_succ (h : StandsAt argv name k) (htakes : TakesValue name) :
    ¬IsOptionPosition argv (k + 1) := by
  obtain ⟨⟨hk, rows, hrows, htake⟩, hname⟩ := h
  intro hnext
  obtain ⟨value, after, hdrop⟩ : ∃ value after, argv.drop k = [name, value] ++ after := by
    obtain ⟨_, rfl⟩ := List.getElem?_eq_some_iff.mp hname
    rw [List.drop_eq_getElem_cons hk, List.drop_eq_getElem_cons hnext.1]
    exact ⟨_, _, rfl⟩
  have hsplit : argv = rows.flatten ++ ([name, value] ++ after) := by
    rw [← htake, ← hdrop, List.take_append_drop]
  have hlength : k = rows.flatten.length := by
    rw [← htake, List.length_take_of_le (Nat.le_of_lt hk)]
  have hwhole : IsWhole [name, value] := ⟨name, by rw [IsOption, htakes]; omega, rfl, htakes.symm⟩
  rw [hsplit, hlength, isOptionPosition_flatten_append_iff hrows,
    isOptionPosition_append_iff hwhole] at hnext
  rcases hnext with hzero | ⟨j, hj, -⟩
  · cases hzero
  · rw [List.length_cons, List.length_singleton] at hj
    omega

/-! ## Rows and positions -/

/-- Filtering an enumeration enumerates those that the filter keeps. -/
theorem Enumerates.filter (h : Enumerates ks P) (Q : Nat → Prop) [DecidablePred Q] :
    Enumerates (ks.filter fun k => Q k) fun k => P k ∧ Q k where
  ordered := h.ordered.filter _
  mem_iff := by
    intro k
    rw [List.mem_filter, h.mem_iff, decide_eq_true_eq]

/-- A row that is read from a list is read behind a group in front of it as well. -/
theorem IsReadAt.append (h : IsReadAt rest k row) (before : List String) :
    IsReadAt (before ++ rest) (before.length + k) row where
  head?_eq := by
    rw [List.getElem?_append_right (Nat.le_add_right ..), Nat.add_sub_cancel_left]
    exact h.head?_eq
  value?_eq := by
    intro name hname htakes
    rw [List.getElem?_append_right (Nat.le_add_right ..), Nat.add_sub_cancel_left] at hname
    rw [Nat.add_assoc, List.getElem?_append_right (Nat.le_add_right ..), Nat.add_sub_cancel_left]
    exact h.value?_eq name hname htakes

/-- A whole group in front is what is read at the first position. -/
theorem IsWhole.isReadAt (h : IsWhole row) (rest : List String) : IsReadAt (row ++ rest) 0 row where
  head?_eq := by rw [List.getElem?_append_left h.length_pos, List.head?_eq_getElem?]
  value?_eq := by
    intro name hname htakes
    rw [List.getElem?_append_left h.length_pos, ← List.head?_eq_getElem?] at hname
    obtain ⟨name', -, hhead, hlength⟩ := h
    obtain rfl := Option.some.inj (hhead.symm.trans hname)
    rw [rowValue?, List.getElem?_append_left (by rw [hlength, htakes]; omega)]

/-- The rows of a grouping are read, one by one, at the positions where an option is due. -/
theorem exists_positions (h : IsGrouping m) :
    ∃ ks, Enumerates ks (IsOptionPosition m.flatten) ∧ List.Forall₂ (IsReadAt m.flatten) ks m := by
  induction h with
  | nil =>
    refine ⟨[], ⟨.nil, fun k => ?_⟩, .nil⟩
    simp [IsOptionPosition]
  | cut h =>
    obtain ⟨name, -, rfl, -⟩ := h.eq_singleton
    refine ⟨[0], ⟨List.pairwise_singleton _ _, fun k => ?_⟩, .cons ⟨rfl, fun _ _ _ => rfl⟩ .nil⟩
    rw [List.mem_singleton]
    constructor
    · rintro rfl
      exact ⟨Nat.zero_lt_one, [], by simp, rfl⟩
    · rintro ⟨hk, -⟩
      exact Nat.lt_one_iff.mp hk
  | @cons row m hrow _ ih =>
    obtain ⟨ks, hks, hread⟩ := ih
    refine ⟨0 :: ks.map (row.length + ·), ⟨?_, fun k => ?_⟩, .cons (hrow.isReadAt _) ?_⟩
    · rw [List.pairwise_cons, List.pairwise_map]
      refine ⟨?_, hks.ordered.imp fun hlt => Nat.add_lt_add_left hlt _⟩
      intro k hk
      obtain ⟨j, -, rfl⟩ := List.mem_map.mp hk
      exact Nat.add_pos_left hrow.length_pos j
    · rw [List.flatten_cons, isOptionPosition_append_iff hrow, List.mem_cons, List.mem_map]
      simp only [hks.mem_iff, eq_comm, and_comm]
    · rw [List.forall₂_map_left_iff]
      exact hread.imp fun j other hother => hother.append row

/-- The rows of a name are read at the positions at which the name stands. -/
theorem exists_positions_named (h : IsGrouping m) (name : String) :
    ∃ ks, Enumerates ks (StandsAt m.flatten name) ∧
      List.Forall₂ (fun k row => m.flatten[k]? = some name ∧ IsReadAt m.flatten k row) ks
        (m.filter (named name)) := by
  obtain ⟨ks, hks, hread⟩ := exists_positions h
  have hnamed : Relator.LiftFun (IsReadAt m.flatten) Iff
      (fun k => decide (m.flatten[k]? = some name) = true) (fun row => named name row = true) := by
    intro k row hrow
    simp only [decide_eq_true_eq, named_iff, hrow.head?_eq]
  refine ⟨_, hks.filter fun k => m.flatten[k]? = some name, ?_⟩
  rw [List.forall₂_and_left]
  exact ⟨fun k hk => by simpa using (List.mem_filter.mp hk).2, List.rel_filter hnamed hread⟩

/-! ## What the accessors read -/

/-- The accessors of a matrix read a name off an argument list: the matrix has it if it stands at a
position of the list, its value is the token behind the first of them, and its values are the tokens behind
all of them. -/
structure ReadsTokens (argv : List String) (m : OptionMatrix) (name : String) : Prop where
  has_iff : m.has name = true ↔ ∃ k, StandsAt argv name k
  first?_eq : TakesValue name → ∀ k, StandsAt argv name k → (∀ j < k, ¬StandsAt argv name j) →
    m.first? name = argv[k + 1]?
  values_eq : TakesValue name → ∃ ks, Enumerates ks (StandsAt argv name) ∧
    m.values name = ks.filterMap fun k => argv[k + 1]?
  unvalued : TakesValue name → m.has name = true → m.first? name = none →
    ∀ k, StandsAt argv name k ↔ k + 1 = argv.length
  head?_values : ∀ value, m.first? name = some value → (m.values name).head? = some value

/-- A name is there just when it has a row. -/
theorem has_iff_filter_ne_nil : m.has name = true ↔ m.filter (named name) ≠ [] := by
  simp [has, List.filter_eq_nil_iff]

/-- The value of a name is that of the first of its rows. -/
theorem first?_eq_head?_filter (m : OptionMatrix) (name : String) :
    m.first? name = (m.filter (named name)).head?.bind rowValue? := by
  rw [first?, List.head?_filter]

/-- The value of a name is the first of its values. -/
theorem head?_values_of_first? (h : m.first? name = some value) :
    (m.values name).head? = some value := by
  rw [first?_eq_head?_filter] at h
  obtain ⟨row, hrow, hvalue⟩ := Option.bind_eq_some_iff.mp h
  obtain ⟨others, hrows⟩ := List.head?_eq_some_iff.mp hrow
  rw [values, hrows, List.filterMap_cons_some hvalue, List.head?_cons]

/-- The least of enumerated numbers stands first among them. -/
theorem Enumerates.head?_eq (h : Enumerates ks P) (hk : P k) (hleast : ∀ j < k, ¬P j) :
    ks.head? = some k := by
  obtain ⟨hordered, hmem⟩ := h
  cases ks with
  | nil => exact absurd ((hmem k).mpr hk) List.not_mem_nil
  | cons first others =>
    rcases List.mem_cons.mp ((hmem k).mpr hk) with rfl | hother
    · rfl
    · have hlt := List.rel_of_pairwise_cons hordered hother
      exact absurd ((hmem first).mp List.mem_cons_self) (hleast first hlt)

section

variable {rows : List (List String)}
  (hread : List.Forall₂ (fun k row => rowValue? row = argv[k + 1]?) ks rows)
include hread

/-- The value of the first row is the token behind the first position. -/
theorem head?_bind_rowValue? : rows.head?.bind rowValue? = ks.head?.bind fun k => argv[k + 1]? := by
  cases hread with
  | nil => rfl
  | cons h _ => exact h

/-- The values of the rows are the tokens behind the positions. -/
theorem filterMap_rowValue? : rows.filterMap rowValue? = ks.filterMap fun k => argv[k + 1]? := by
  induction hread with
  | nil => rfl
  | cons h _ ih => rw [List.filterMap_cons, List.filterMap_cons, h, ih]

end

/-- A grouping is read off its tokens. -/
theorem readsTokens_of_isGrouping (h : IsGrouping m) (name : String) :
    ReadsTokens m.flatten m name := by
  obtain ⟨ks, hks, hread⟩ := exists_positions_named h name
  have hvalues (htakes : TakesValue name) :
      List.Forall₂ (fun k row => rowValue? row = m.flatten[k + 1]?) ks (m.filter (named name)) :=
    hread.imp fun k row hrow => hrow.2.value?_eq name hrow.1 htakes
  have hhas : m.has name = true ↔ ∃ k, StandsAt m.flatten name k := by
    rw [has_iff_filter_ne_nil, ← List.length_pos_iff, ← hread.length_eq, List.length_pos_iff_exists_mem]
    simp only [hks.mem_iff]
  have hfirst (htakes : TakesValue name) :
      m.first? name = ks.head?.bind fun k => m.flatten[k + 1]? := by
    rw [first?_eq_head?_filter, head?_bind_rowValue? (hvalues htakes)]
  refine ⟨hhas, ?_, ?_, ?_, fun value => head?_values_of_first?⟩
  · intro htakes k hk hleast
    rw [hfirst htakes, hks.head?_eq hk hleast, Option.bind_some]
  · exact fun htakes => ⟨ks, hks, filterMap_rowValue? (hvalues htakes)⟩
  · intro htakes hname hnone k
    rw [hfirst htakes] at hnone
    obtain ⟨hordered, hmem⟩ := hks
    cases ks with
    | nil =>
      obtain ⟨j, hj⟩ := hhas.mp hname
      exact absurd ((hmem j).mpr hj) List.not_mem_nil
    | cons first others =>
      have hend : m.flatten.length ≤ first + 1 := List.getElem?_eq_none_iff.mp hnone
      have hlt := ((hmem first).mp List.mem_cons_self).1.1
      constructor
      · intro hk
        have hklt := hk.1.1
        rcases List.mem_cons.mp ((hmem k).mpr hk) with rfl | hother
        · omega
        · have hbehind := List.rel_of_pairwise_cons hordered hother
          omega
      · intro hk
        obtain rfl : k = first := by omega
        exact (hmem k).mp List.mem_cons_self

/-- Only the last row of a grouping can lack the value of its option, and then the option is the last
token. -/
theorem IsGrouping.eq_last_of_unvalued (h : IsGrouping m) {i : Nat} (hi : m[i]? = some row)
    (hname : row.head? = some name) (htakes : TakesValue name) (hvalue : rowValue? row = none) :
    i + 1 = m.length ∧ m.flatten.getLast? = some name := by
  induction h generalizing i with
  | nil => simp at hi
  | cut hcut =>
    obtain ⟨other, -, rfl, -⟩ := hcut.eq_singleton
    obtain ⟨hlt, rfl⟩ := List.getElem?_eq_some_iff.mp hi
    obtain rfl : i = 0 := Nat.lt_one_iff.mp hlt
    exact ⟨rfl, hname⟩
  | @cons first others hfirst hothers ih =>
    cases i with
    | zero =>
      obtain rfl : first = row := by simpa using hi
      obtain ⟨name', -, hhead, hlength⟩ := hfirst
      obtain rfl := Option.some.inj (hhead.symm.trans hname)
      rw [rowValue?, List.getElem?_eq_none_iff, hlength, htakes] at hvalue
      omega
    | succ i =>
      obtain ⟨hlast, hend⟩ := ih (by simpa using hi)
      refine ⟨by rw [List.length_cons, hlast], ?_⟩
      rw [List.flatten_cons, List.getLast?_append, hend, Option.some_or]

/-- The accessors of a grouped argument list read its tokens: the rows of a name are the positions at which
the name stands as an option, and the value of an option is none of these, whatever it looks like. An option
that takes a value and lacks it makes the last row and is the last token, so there is one such option at
most. -/
theorem accessors_of_group (h : group argv = .ok m) :
    (∀ name, ReadsTokens argv m name) ∧
    (∀ name k, StandsAt argv name k → TakesValue name → ¬IsOptionPosition argv (k + 1)) ∧
    ∀ (i : Nat) row name, m[i]? = some row → row.head? = some name → TakesValue name →
      rowValue? row = none → i + 1 = m.length ∧ argv.getLast? = some name := by
  obtain ⟨hgrouping, rfl⟩ := isGrouping_of_group h
  refine ⟨readsTokens_of_isGrouping hgrouping, fun name k hk => hk.not_isOptionPosition_succ, ?_⟩
  intro i row name hi hname htakes hvalue
  exact hgrouping.eq_last_of_unvalued hi hname htakes hvalue

/-- Arguments in which a name is first the value of another option, then an option twice, and of which the
last one lacks its value. -/
def tagTwice : List String := ["-multiple", "-d", "-tag", "-tag", "a", "-tag", "b", "-taglet"]

/-- The tags are those behind the two options, and the option without a value stands at the end alone. -/
theorem tagTwice_read :
    ∃ m, group tagTwice = .ok m ∧ ¬IsOptionPosition tagTwice 2 ∧
      m.first? "-tag" = some "a" ∧ (m.values "-tag").head? = some "a" ∧
      (∀ k, StandsAt tagTwice "-taglet" k ↔ k + 1 = tagTwice.length) ∧
      tagTwice.getLast? = some "-taglet" := by
  have hgroup : group tagTwice =
      .ok [["-multiple"], ["-d", "-tag"], ["-tag", "a"], ["-tag", "b"], ["-taglet"]] := by
    decide +kernel
  obtain ⟨hreads, hvalues, hlast⟩ := accessors_of_group hgroup
  have hwhole : ∀ row ∈ [["-multiple"], ["-d", "-tag"]], IsWhole row := by
    intro row hrow
    rcases List.mem_cons.mp hrow with rfl | hrow
    · exact ⟨"-multiple", by decide, rfl, by decide⟩
    · obtain rfl := List.mem_singleton.mp hrow
      exact ⟨"-d", by decide, rfl, by decide⟩
  have hd : StandsAt tagTwice "-d" 1 :=
    ⟨⟨by decide, [["-multiple"]], fun row hrow => hwhole row (by simp_all), rfl⟩, rfl⟩
  have htag : StandsAt tagTwice "-tag" 3 := ⟨⟨by decide, _, hwhole, rfl⟩, rfl⟩
  have hvalue := hvalues "-d" 1 hd (by decide)
  have hleast : ∀ j < 3, ¬StandsAt tagTwice "-tag" j := by
    rintro j hj ⟨hposition, hname⟩
    match j, hj with
    | 0, _ | 1, _ => exact absurd hname (by decide)
    | 2, _ => exact hvalue hposition
  have hfirst := (hreads "-tag").first?_eq (by decide) 3 htag hleast
  refine ⟨_, hgroup, hvalue, hfirst, (hreads "-tag").head?_values "a" hfirst, ?_, ?_⟩
  · exact (hreads "-taglet").unvalued (by decide) (by decide) (by decide)
  · exact (hlast 4 ["-taglet"] "-taglet" rfl rfl (by decide) rfl).2

end OptionMatrix

end DocletPreflight
