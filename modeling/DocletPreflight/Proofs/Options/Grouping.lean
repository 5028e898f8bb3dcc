import DocletPreflight.Options
import Mathlib.Tactic.Common

/-!
# Groups of tokens

An argument list is read group by group. A group is an option with as many tokens as it takes
(`IsWhole`), and the end of the list may cut the last one short (`IsCut`); `IsGrouping` says of a matrix
that its rows are such groups. Two steps carry everything here: a whole group in front of a list becomes
the first row (`group_append_of_isWhole`), and where a token is due to be an option and is none, the
reading stops with it (`group_cons_of_not_isOption`). Grouping then undoes flattening and flattening
undoes grouping (`IsGrouping.group_flatten`, `isGrouping_of_group`), an error names the first token that
stands where an option is due and is none (`group_eq_error_iff`), and whole groups in front of a list do
not change how the list is read (`group_iff_grouping`).
-/

set_option autoImplicit false

namespace DocletPreflight

/-- A name stands for an option when the option takes up any tokens. -/
def IsOption (name : String) : Prop := 0 < optionLength name

instance (name : String) : Decidable (IsOption name) :=
  inferInstanceAs (Decidable (0 < optionLength name))

/-- A name is an option just when there is a flag of that text. -/
theorem isOption_iff {name : String} : IsOption name ↔ ∃ f, Flag.ofText? name = some f := by
  cases hname : Flag.ofText? name with
  | none => simp [IsOption, optionLength, hname]
  | some f =>
    have hlength : 0 < f.length := by
      unfold Flag.length
      split <;> omega
    simp [IsOption, optionLength, hname, hlength]

namespace OptionMatrix

/-- A row is a whole group: an option and as many tokens as it takes. -/
def IsWhole (row : List String) : Prop :=
  ∃ name, IsOption name ∧ row.head? = some name ∧ row.length = optionLength name

/-- A row is a group that was cut short: an option and fewer tokens than it takes. -/
def IsCut (row : List String) : Prop :=
  ∃ name, IsOption name ∧ row.head? = some name ∧ row.length < optionLength name

/-- The rows of a matrix are whole groups, except that the last one may have been cut short. -/
inductive IsGrouping : OptionMatrix → Prop where
  | nil : IsGrouping []
  | cut {row : List String} (h : IsCut row) : IsGrouping [row]
  | cons {row : List String} {m : OptionMatrix} (hrow : IsWhole row) (hm : IsGrouping m) :
      IsGrouping (row :: m)

variable {argv row rest : List String} {m : OptionMatrix} {name : String}

/-! ## One group -/

/-- A first token that is no option is refused. -/
theorem group_cons_of_not_isOption (h : ¬IsOption name) : group (name :: rest) = .error ⟨name⟩ := by
  have hname : Flag.ofText? name = none := by
    rw [Option.eq_none_iff_forall_ne_some]
    intro f hf
    exact h (isOption_iff.mpr ⟨f, hf⟩)
  unfold group
  rw [hname]

/-- An option takes up one token or two, its name and the value that it takes. -/
theorem optionLength_of_ofText? {f : Flag} (h : Flag.ofText? name = some f) :
    optionLength name = if f.takesValue then 2 else 1 := by
  rw [optionLength, h]
  rfl

/-- A whole group in front is a row of its own before the rows of the rest. -/
theorem group_append_of_isWhole (h : IsWhole row) (rest : List String) :
    group (row ++ rest) = (group rest).map (row :: ·) := by
  obtain ⟨name, hoption, hhead, hlength⟩ := h
  obtain ⟨f, hf⟩ := isOption_iff.mp hoption
  rw [optionLength_of_ofText? hf] at hlength
  obtain ⟨tail, rfl⟩ := List.head?_eq_some_iff.mp hhead
  cases htakes : f.takesValue with
  | false =>
    rw [htakes] at hlength
    obtain rfl : tail = [] := by simpa using hlength
    rw [List.cons_append, List.nil_append]
    conv_lhs => unfold group
    simp [hf, htakes]
  | true =>
    rw [htakes] at hlength
    obtain ⟨value, rfl⟩ : ∃ value, tail = [value] := by
      rw [← List.length_eq_one_iff]
      simpa using hlength
    rw [List.cons_append, List.cons_append, List.nil_append]
    conv_lhs => unfold group
    simp [hf, htakes]

/-- A group that was cut short is the name of an option that takes a value. -/
theorem IsCut.eq_singleton (h : IsCut row) :
    ∃ name f, row = [name] ∧ Flag.ofText? name = some f ∧ f.takesValue = true := by
  obtain ⟨name, hoption, hhead, hlength⟩ := h
  obtain ⟨f, hf⟩ := isOption_iff.mp hoption
  rw [optionLength_of_ofText? hf] at hlength
  obtain ⟨tail, rfl⟩ := List.head?_eq_some_iff.mp hhead
  cases htakes : f.takesValue with
  | false => simp [htakes] at hlength
  | true =>
    obtain rfl : tail = [] := by
      rw [← List.length_eq_zero_iff]
      simp only [htakes, List.length_cons, if_true] at hlength
      omega
    exact ⟨name, f, rfl, hf, htakes⟩

/-- A group that is cut short is a row of its own if nothing comes behind it. -/
theorem group_of_isCut (h : IsCut row) : group row = .ok [row] := by
  obtain ⟨name, f, rfl, hf, htakes⟩ := h.eq_singleton
  unfold group
  simp [hf, htakes]

/-- An argument list that is not empty starts with a whole group, or it is a group that was cut short, or
what it starts with is no option. -/
theorem exists_group_or (name : String) (rest : List String) :
    (∃ row more, IsWhole row ∧ name :: rest = row ++ more) ∨ IsCut (name :: rest) ∨ ¬IsOption name := by
  by_cases hoption : IsOption name
  · rcases Nat.lt_or_ge (name :: rest).length (optionLength name) with hshort | hlong
    · exact .inr (.inl ⟨name, hoption, rfl, hshort⟩)
    · refine .inl ⟨(name :: rest).take (optionLength name), (name :: rest).drop (optionLength name),
        ⟨name, hoption, ?_, ?_⟩, (List.take_append_drop ..).symm⟩
      · rw [List.head?_take, if_neg (Nat.pos_iff_ne_zero.mp hoption)]
        rfl
      · rw [List.length_take, Nat.min_eq_left hlong]
  · exact .inr (.inr hoption)

/-! ## Groups in a row -/

/-- Whole groups in front of a list are its first rows, whatever the rest of the list comes to. -/
theorem group_flatten_append (h : ∀ row ∈ m, IsWhole row) (rest : List String) :
    group (m.flatten ++ rest) = (group rest).map (m ++ ·) := by
  induction m with
  | nil => cases hrest : group rest <;> simp [hrest, Except.map]
  | cons row m ih =>
    rw [List.flatten_cons, List.append_assoc, group_append_of_isWhole (h row (by simp)),
      ih fun other hother => h other (by simp [hother])]
    cases group rest <;> rfl

/-- Rows that are a grouping are read back from their tokens. -/
theorem IsGrouping.group_flatten (h : IsGrouping m) : group m.flatten = .ok m := by
  induction h with
  | nil => rfl
  | cut h => rw [List.flatten_singleton, group_of_isCut h]
  | cons hrow _ ih =>
    rw [List.flatten_cons, group_append_of_isWhole hrow, ih]
    rfl

/-- Whole groups are a grouping. -/
theorem isGrouping_of_forall (h : ∀ row ∈ m, IsWhole row) : IsGrouping m := by
  induction m with
  | nil => exact .nil
  | cons row m ih => exact .cons (h row (by simp)) (ih fun other hother => h other (by simp [hother]))

/-- A list that is read to its end is the flattening of groups; otherwise whole groups stand in it before
a token that should be an option and is none. -/
theorem exists_grouping_or (argv : List String) :
    (∃ m, IsGrouping m ∧ m.flatten = argv) ∨
      ∃ (rows : OptionMatrix) (name : String) (after : List String), (∀ row ∈ rows, IsWhole row) ∧
        argv = rows.flatten ++ name :: after ∧ ¬IsOption name := by
  -- a whole group is not empty, so what is behind it is shorter
  induction hn : argv.length using Nat.strongRecOn generalizing argv with
  | _ n ih =>
    subst hn
    cases argv with
    | nil => exact .inl ⟨[], .nil, rfl⟩
    | cons first tail =>
      rcases exists_group_or first tail with ⟨row, more, hrow, hsplit⟩ | hcut | hunknown
      · have hpos : 0 < row.length := by
          obtain ⟨name, hoption, -, hlength⟩ := hrow
          rw [hlength]
          exact hoption
        have hshorter : more.length < (first :: tail).length := by
          rw [hsplit, List.length_append]
          omega
        rcases ih more.length hshorter more rfl with ⟨m, hm, hflatten⟩ | hrest
        · exact .inl ⟨row :: m, .cons hrow hm, by rw [List.flatten_cons, hflatten, hsplit]⟩
        · obtain ⟨rows, name, after, hrows, rfl, hname⟩ := hrest
          refine .inr ⟨row :: rows, name, after, ?_, ?_, hname⟩
          · intro other hother
            rcases List.mem_cons.mp hother with rfl | hother
            · exact hrow
            · exact hrows other hother
          · rw [hsplit, List.flatten_cons, List.append_assoc]
      · exact .inl ⟨[first :: tail], .cut hcut, List.flatten_singleton⟩
      · exact .inr ⟨[], first, tail, by simp, rfl, hunknown⟩

/-- Flattening undoes grouping, and the rows are groups. -/
theorem isGrouping_of_group (h : group argv = .ok m) : IsGrouping m ∧ m.flatten = argv := by
  rcases exists_grouping_or argv with ⟨m', hm', rfl⟩ | ⟨rows, name, after, hrows, rfl, hname⟩
  · rw [hm'.group_flatten] at h
    cases h
    exact ⟨hm', rfl⟩
  · rw [group_flatten_append hrows, group_cons_of_not_isOption hname] at h
    cases h

/-! ## Where an option is due -/

/-- An option is due at a position of a list when whole groups stand before it. -/
def IsOptionPosition (argv : List String) (n : Nat) : Prop :=
  n < argv.length ∧ ∃ rows : OptionMatrix, (∀ row ∈ rows, IsWhole row) ∧ argv.take n = rows.flatten

/-- A name is the first that stands where an option is due and is none. -/
def IsFirstUnknown (argv : List String) (name : String) : Prop :=
  ∃ n, IsOptionPosition argv n ∧ argv[n]? = some name ∧ ¬IsOption name ∧
    ∀ k < n, IsOptionPosition argv k → ∃ other, argv[k]? = some other ∧ IsOption other

/-- An option is due at the beginning and behind whole groups. -/
theorem isOptionPosition_of_append {rows : OptionMatrix} (hrows : ∀ row ∈ rows, IsWhole row)
    (name : String) (after : List String) :
    IsOptionPosition (rows.flatten ++ name :: after) rows.flatten.length :=
  ⟨by simp, rows, hrows, List.take_left ..⟩

/-- Among whole groups an option stands wherever one is due. -/
theorem isOption_of_isOptionPosition {rows : OptionMatrix} (hrows : ∀ row ∈ rows, IsWhole row)
    {k : Nat} (h : IsOptionPosition rows.flatten k) :
    ∃ other, rows.flatten[k]? = some other ∧ IsOption other := by
  obtain ⟨hk, before, hbefore, htake⟩ := h
  refine ⟨rows.flatten[k], List.getElem?_eq_getElem hk, ?_⟩
  by_contra hunknown
  -- reading the groups would stop at the position, though they can be read to their end
  have hsplit : rows.flatten = before.flatten ++ rows.flatten[k] :: rows.flatten.drop (k + 1) := by
    rw [← htake, List.getElem_cons_drop, List.take_append_drop]
  have hgroup := (isGrouping_of_forall hrows).group_flatten
  rw [hsplit, group_flatten_append hbefore, group_cons_of_not_isOption hunknown] at hgroup
  cases hgroup

/-- Behind whole groups, a token that is no option is the first unknown one. -/
theorem isFirstUnknown_of_append {rows : OptionMatrix} (hrows : ∀ row ∈ rows, IsWhole row)
    (hname : ¬IsOption name) (after : List String) :
    IsFirstUnknown (rows.flatten ++ name :: after) name := by
  refine ⟨rows.flatten.length, isOptionPosition_of_append hrows name after, by simp, hname, ?_⟩
  rintro k hk ⟨-, before, hbefore, htake⟩
  rw [List.take_append_of_le_length (Nat.le_of_lt hk)] at htake
  rw [List.getElem?_append_left hk]
  exact isOption_of_isOptionPosition hrows ⟨hk, before, hbefore, htake⟩

/-- Reading a list fails with the first token that stands where an option is due and is none. -/
theorem group_eq_error_iff : group argv = .error ⟨name⟩ ↔ IsFirstUnknown argv name := by
  constructor
  · intro h
    rcases exists_grouping_or argv with ⟨m, hm, rfl⟩ | ⟨rows, other, after, hrows, rfl, hother⟩
    · rw [hm.group_flatten] at h
      cases h
    · rw [group_flatten_append hrows, group_cons_of_not_isOption hother] at h
      cases h
      exact isFirstUnknown_of_append hrows hother after
  · rintro ⟨n, ⟨hn, rows, hrows, htake⟩, hget, hname, -⟩
    obtain ⟨_, rfl⟩ := List.getElem?_eq_some_iff.mp hget
    have hsplit : argv = rows.flatten ++ argv[n] :: argv.drop (n + 1) := by
      rw [← htake, List.getElem_cons_drop, List.take_append_drop]
    have hgroup := group_flatten_append hrows (argv[n] :: argv.drop (n + 1))
    rwa [← hsplit, group_cons_of_not_isOption hname] at hgroup

/-- An argument list can be grouped just when it is the flattening of groups, and then into these and no
others. Whatever matrix has groups for rows comes back from its flattening. A list that cannot be grouped
fails with the first token that stands where an option is due and is none. Behind whole groups another
list reads as it does alone, and fails as it does alone. -/
theorem group_iff_grouping (argv : List String) :
    ((∃ m, group argv = .ok m) ↔ ∃ m, IsGrouping m ∧ m.flatten = argv) ∧
    (∀ m, group argv = .ok m →
      IsGrouping m ∧ m.flatten = argv ∧ ∀ other, IsGrouping other → other.flatten = argv → other = m) ∧
    (∀ m, IsGrouping m → group m.flatten = .ok m) ∧
    ((¬∃ m, group argv = .ok m) → ∃ name, group argv = .error ⟨name⟩) ∧
    (∀ name, group argv = .error ⟨name⟩ ↔ IsFirstUnknown argv name) ∧
    ∀ m, group argv = .ok m → (∀ row ∈ m, IsWhole row) →
      ∀ more, group (argv ++ more) = (group more).map (m ++ ·) := by
  refine ⟨⟨?_, ?_⟩, ?_, fun m hm => hm.group_flatten, ?_, fun name => group_eq_error_iff, ?_⟩
  · rintro ⟨m, hm⟩
    exact ⟨m, isGrouping_of_group hm⟩
  · rintro ⟨m, hm, rfl⟩
    exact ⟨m, hm.group_flatten⟩
  · intro m hm
    obtain ⟨hgrouping, hflatten⟩ := isGrouping_of_group hm
    refine ⟨hgrouping, hflatten, ?_⟩
    rintro other hother rfl
    rw [hother.group_flatten] at hm
    exact Except.ok.inj hm
  · intro hnone
    cases hgroup : group argv with
    | ok m => exact absurd ⟨m, hgroup⟩ hnone
    | error e => exact ⟨e.name, rfl⟩
  · intro m hm hwhole more
    obtain ⟨-, rfl⟩ := isGrouping_of_group hm
    exact group_flatten_append hwhole more

/-- An option can be the value of another, which does not count as an option then, and the last option
may lack its value. A value that no option takes is what a list fails with, here behind a value that is
the same text. -/
theorem optionAsValue_grouped :
    IsGrouping [["-multiple"], ["-d", "-tag"], ["-taglet"]] ∧
    group ["-multiple", "-d", "-tag", "-taglet"] = .ok [["-multiple"], ["-d", "-tag"], ["-taglet"]] ∧
    IsFirstUnknown ["-d", "-x", "-x", "-d"] "-x" ∧
    group (["-d", "-x"] ++ ["-x", "-d"]) = (group ["-x", "-d"]).map ([["-d", "-x"]] ++ ·) := by
  have hgroup : group ["-multiple", "-d", "-tag", "-taglet"] =
      .ok [["-multiple"], ["-d", "-tag"], ["-taglet"]] := by decide +kernel
  have hvalue : group ["-d", "-x"] = .ok [["-d", "-x"]] := by decide +kernel
  obtain ⟨-, hgrouping, hflattened, -⟩ := group_iff_grouping ["-multiple", "-d", "-tag", "-taglet"]
  obtain ⟨-, -, -, -, herror, -⟩ := group_iff_grouping ["-d", "-x", "-x", "-d"]
  obtain ⟨-, -, -, -, -, happend⟩ := group_iff_grouping ["-d", "-x"]
  refine ⟨(hgrouping _ hgroup).1, hflattened _ (hgrouping _ hgroup).1,
    (herror "-x").mp (by decide +kernel), happend _ hvalue ?_ _⟩
  intro row hrow
  obtain rfl := List.mem_singleton.mp hrow
  exact ⟨"-d", by decide, rfl, by decide⟩

end OptionMatrix

end DocletPreflight
