import DocletPreflight.Log.Logger
import DocletPreflight.Proofs.Text.Cuts

/-!
# Loggers that reach the root

A logger is looked upwards from by its name alone, and which of the loggers above it are in use is a
matter of chance. Where every part of a name is a text that is not empty, this does not matter. Written
backwards, such a name is that of the root with parts in front of it (`Descends`). The names above it are
shorter ones of the same kind, and the root is among them, so that some logger above it is always found
and the way upwards ends at the root (`reaches_loggerName`).
-/

set_option autoImplicit false

namespace DocletPreflight.Logger

/-- The name of the root, written backwards. -/
def rootBackwards : List Char := rootLogger.toList.reverse

/-- A name, written backwards, is that of the root with parts in front of it, each of them with a point
behind it. -/
inductive Descends : List Char → Prop where
  | root : Descends rootBackwards
  | part {p s : List Char} (hne : p ≠ []) (hdot : '.' ∉ p) (h : Descends s) : Descends (p ++ '.' :: s)

variable {p s t : List Char}

/-! ## Names above a name -/

/-- A character that is no point does not matter to the names above. -/
theorem above_cons_of_ne {c : Char} (hc : c ≠ '.') (s : List Char) : above (c :: s) = above s :=
  above.eq_2 c s fun _ _ h _ => hc h

/-- A part without points has nothing to be cut at. -/
theorem above_append (h : '.' ∉ p) (s : List Char) : above (p ++ s) = above s := by
  induction p with
  | nil => rfl
  | cons c p ih =>
    have hc : c ≠ '.' := fun hc => h (by simp [hc])
    have hp : '.' ∉ p := fun hp => h (by simp [hp])
    rw [List.cons_append, above_cons_of_ne hc, ih hp]

/-- A name below the root ends in a character that is no point. -/
theorem Descends.exists_cons (h : Descends s) : ∃ c rest, s = c :: rest ∧ c ≠ '.' := by
  cases h with
  | root => exact ⟨'t', "elcodlmx".toList, by decide, by decide⟩
  | @part p s hne hdot =>
    obtain ⟨c, p, rfl⟩ := List.exists_cons_of_ne_nil hne
    exact ⟨c, p ++ '.' :: s, rfl, fun hc => hdot (by simp [hc])⟩

/-- Above a name with a part in front stands the name without it, and then what is above that. -/
theorem above_part (hdot : '.' ∉ p) (h : Descends s) : above (p ++ '.' :: s) = s :: above s := by
  obtain ⟨c, rest, rfl, hc⟩ := h.exists_cons
  rw [above_append hdot, above.eq_1, above_cons_of_ne hc]

/-- The names above a name of ordinary parts are of the same kind, and they are shorter. -/
theorem Descends.of_mem_above (h : Descends s) (ht : t ∈ above s) :
    Descends t ∧ t.length < s.length := by
  induction h with
  | root =>
    have hnone : above rootBackwards = [] := by decide
    rw [hnone] at ht
    cases ht
  | part hne hdot h ih =>
    rw [above_part hdot h] at ht
    rcases List.mem_cons.mp ht with rfl | ht
    · exact ⟨h, by simp; omega⟩
    · obtain ⟨hdescends, hlength⟩ := ih ht
      refine ⟨hdescends, ?_⟩
      rw [List.length_append, List.length_cons]
      omega

/-- The root is above every other name of ordinary parts. -/
theorem Descends.root_mem_above (h : Descends s) : s = rootBackwards ∨ rootBackwards ∈ above s := by
  induction h with
  | root => exact .inl rfl
  | part hne hdot h ih =>
    rw [above_part hdot h]
    rcases ih with rfl | ih
    · exact .inr (by simp)
    · exact .inr (by simp [ih])

/-! ## The way upwards -/

/-- Each logger below the root has one above it, with a shorter name, that is not outside the root. -/
theorem parent?_of_descends {name : String} (inUse : List String) (h : Descends name.toList.reverse)
    (hroot : name ≠ rootLogger) :
    ∃ next, parent? inUse name = some next ∧ Descends next.toList.reverse ∧
      next.length < name.length := by
  have hbackwards : name.toList.reverse ≠ rootBackwards := by
    intro heq
    exact hroot (String.toList_inj.mp (List.reverse_inj.mp heq))
  have hmem := h.root_mem_above.resolve_left hbackwards
  have hsome : (parent? inUse name).isSome := by
    refine List.find?_isSome.mpr ⟨rootLogger, List.mem_map.mpr ⟨rootBackwards, hmem, ?_⟩, by simp⟩
    rw [rootBackwards, List.reverse_reverse, String.ofList_toList]
  obtain ⟨next, hnext⟩ := Option.isSome_iff_exists.mp hsome
  obtain ⟨t, ht, rfl⟩ := List.mem_map.mp (List.mem_of_find?_eq_some hnext)
  obtain ⟨hdescends, hlength⟩ := h.of_mem_above ht
  refine ⟨_, hnext, by simpa using hdescends, ?_⟩
  simpa [← String.length_toList] using hlength

/-- A logger with a name of ordinary parts reaches the root in fewer steps than its name has
characters. -/
theorem reachesWithin_of_descends (inUse : List String) {name : String} {steps : Nat}
    (h : Descends name.toList.reverse) (hsteps : name.length < steps) :
    reachesWithin inUse steps name = true := by
  induction steps generalizing name with
  | zero => omega
  | succ steps ih =>
    by_cases hroot : name = rootLogger
    · simp [reachesWithin, hroot]
    · obtain ⟨next, hnext, hdescends, hlength⟩ := parent?_of_descends inUse h hroot
      simp [reachesWithin, hnext, ih hdescends (by omega)]

/-- From every name below the root the loggers above lead to it. -/
theorem reaches_of_descends (inUse : List String) {name : String} (h : Descends name.toList.reverse) :
    reaches inUse name = true :=
  reachesWithin_of_descends inUse h (by omega)

/-! ## Names of ordinary parts -/

/-- A name of a logger is ordinary when there is none, or it is empty, or no part of it is. -/
def IsOrdinary : Option String → Prop
  | none => True
  | some name => name = "" ∨ ∀ part ∈ Text.split '.' name, part ≠ ""

/-- Parts behind a name of ordinary parts make a name of ordinary parts. -/
theorem descends_of_parts {ps : List String} (hne : ∀ p ∈ ps, p ≠ "") (hdot : ∀ p ∈ ps, '.' ∉ p.toList)
    (h : Descends s.reverse) : Descends (s ++ ps.flatMap fun p => '.' :: p.toList).reverse := by
  induction ps generalizing s with
  | nil => simpa using h
  | cons p ps ih =>
    have hnext : Descends (s ++ '.' :: p.toList).reverse := by
      have hpart : Descends (p.toList.reverse ++ '.' :: s.reverse) :=
        .part (by simpa using hne p (by simp)) (by simpa using hdot p (by simp)) h
      simpa using hpart
    have hrest := ih (fun q hq => hne q (by simp [hq])) (fun q hq => hdot q (by simp [hq])) hnext
    simpa using hrest

/-- Joined parts behind a separator are the parts with a separator in front of each. -/
theorem cons_intercalate {sep : Char} {ps : List (List Char)} (h : ps ≠ []) :
    sep :: List.intercalate [sep] ps = ps.flatMap fun p => sep :: p := by
  induction ps with
  | nil => exact absurd rfl h
  | cons p ps ih =>
    cases ps with
    | nil => simp
    | cons q ps =>
      rw [List.intercalate_cons_cons, List.append_assoc, List.singleton_append, ih (by simp)]
      simp

/-- An ordinary name is that of a logger below the root. -/
theorem descends_loggerName {name : Option String} (h : IsOrdinary name) :
    Descends (loggerName name).toList.reverse := by
  cases name with
  | none => exact .root
  | some name =>
    by_cases hempty : name = ""
    · rw [loggerName, if_pos hempty]
      exact .root
    · obtain ⟨hne, hdot, hjoined⟩ := Text.split_eq_iff.mp (rfl : Text.split '.' name = _)
      have hname : (loggerName (some name)).toList =
          rootLogger.toList ++ (Text.split '.' name).flatMap fun p => '.' :: p.toList := by
        rw [loggerName, if_neg hempty]
        conv_lhs => rw [← hjoined]
        rw [String.toList_append, String.toList_append, String.toList_intercalate, List.append_assoc]
        have hcons : '.' :: List.intercalate ['.'] ((Text.split '.' name).map String.toList) =
            ((Text.split '.' name).map String.toList).flatMap fun p => '.' :: p :=
          cons_intercalate (by simpa using hne)
        rw [List.flatMap_map] at hcons
        rw [← hcons]
        rfl
      rw [hname]
      exact descends_of_parts (h.resolve_left hempty) hdot .root

/-- A logger with an ordinary name reaches the root whatever loggers are in use. -/
theorem reaches_loggerName (inUse : List String) {name : Option String} (h : IsOrdinary name) :
    reaches inUse (loggerName name) = true :=
  reaches_of_descends inUse (descends_loggerName h)

end DocletPreflight.Logger
