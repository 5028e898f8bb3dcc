import DocletPreflight.Yaml.Value
import Mathlib.Tactic.Common

/-!
# What a value says as text

A listing is made of values of which nothing is known, and what counts of a value is the text that it
says: `Value.written?` for one text and `Value.writtenTexts` for several. Neither can fail. The reader
`Value.text?` fails on whole numbers that are too long to be written, and on no other value; the lemmas
of this file say that it agrees with `Value.written?` wherever it answers (`written?_of_text?`) and that
it answers on every value that holds no such number (`text?_eq`). `Value.Holds` says what stands where
in a value.
-/

set_option autoImplicit false

namespace DocletPreflight.Yaml.Value

/-- The text that a text, a number or a truth value says, however long it is. -/
def written? : Value → Option String
  | str s => some s
  | bool b => some (truthText b)
  | int n => some (toString n)
  | float x => some x.text
  | _ => none

/-- The texts that a value says: a text says itself, and a list what those of its items say that say
something. -/
def writtenTexts : Value → List String
  | str s => [s]
  | list items => items.filterMap written?
  | _ => []

/-- A value holds itself and whatever the items of a list or the fields of a mapping hold. -/
inductive Holds : Value → Value → Prop where
  | self (v : Value) : Holds v v
  | item {items : List Value} {v w : Value} (hv : v ∈ items) (hw : Holds v w) :
      Holds (list items) w
  | field {fields : List (String × Value)} {name : String} {v w : Value}
      (hv : (name, v) ∈ fields) (hw : Holds v w) : Holds (map fields) w

/-- No whole number in a value is too long to be written. -/
def NumbersWritable (v : Value) : Prop := ∀ n, Holds v (int n) → isWritable n = true

/-- A number of one digit is writable. -/
theorem isWritable_of_natAbs_lt {n : Int} (h : n.natAbs < 10) : isWritable n = true := by
  have hle : ∀ limit, 1 ≤ limit → 10 ≤ Nat.pow 10 limit := by
    intro limit hlimit
    exact Nat.le_pow hlimit
  have hlimit : 1 ≤ digitLimit := by simp [digitLimit]
  exact decide_eq_true (Nat.lt_of_lt_of_le h (hle digitLimit hlimit))

/-- There is no number in a text. -/
@[simp] theorem numbersWritable_str (s : String) : (str s).NumbersWritable := by
  intro n hn
  cases hn

/-- The only number in a number is itself. -/
@[simp] theorem numbersWritable_int {n : Int} : (int n).NumbersWritable ↔ isWritable n = true := by
  constructor
  · intro h
    exact h n (.self _)
  · intro h m hm
    cases hm
    exact h

/-- The numbers in a list are those in its items. -/
@[simp] theorem numbersWritable_list {items : List Value} :
    (list items).NumbersWritable ↔ ∀ v ∈ items, v.NumbersWritable := by
  constructor
  · intro h v hv n hn
    exact h n (.item hv hn)
  · intro h n hn
    cases hn with
    | item hv hn => exact h _ hv n hn

/-- The numbers in a map are those in its fields. -/
@[simp] theorem numbersWritable_map {fields : List (String × Value)} :
    (map fields).NumbersWritable ↔ ∀ field ∈ fields, field.2.NumbersWritable := by
  constructor
  · rintro h ⟨name, v⟩ hv n hn
    exact h n (.field hv hn)
  · intro h n hn
    cases hn with
    | field hv hn => exact h _ hv n hn

/-- Where the reader of one text answers, it answers what is written. -/
theorem written?_of_text? {v : Value} {t : Option String} (h : v.text? = .ok t) :
    v.written? = t := by
  cases v with
  | int n =>
    cases hn : isWritable n with
    | true => simpa [text?, hn, written?] using h
    | false => simp [text?, hn] at h
  | _ => simpa [text?, written?] using h

/-- The reader of one text answers on every value that is no long number. -/
theorem text?_eq {v : Value} (h : v.NumbersWritable) : v.text? = .ok v.written? := by
  cases v with
  | int n => simp [text?, written?, numbersWritable_int.mp h]
  | _ => rfl

/-- The reader of several texts goes through the items of a list one by one. -/
theorem itemTexts_cons (item : Value) (rest : List Value) :
    itemTexts (item :: rest) =
      item.text? >>= fun text => itemTexts rest >>= fun texts => .ok (text.toList ++ texts) := rfl

/-- The texts that are taken of items are those that they say. -/
theorem filterMap_of_itemTexts {items : List Value} {ts : List String}
    (h : itemTexts items = .ok ts) : items.filterMap written? = ts := by
  induction items generalizing ts with
  | nil => simpa [itemTexts] using h
  | cons item rest ih =>
    rw [itemTexts_cons] at h
    cases ht : item.text? with
    | error e => rw [ht] at h; cases h
    | ok t =>
      cases hr : itemTexts rest with
      | error e => rw [ht, hr] at h; cases h
      | ok rs =>
        rw [ht, hr] at h
        cases h
        have hw := written?_of_text? ht
        cases t <;> simp [hw, ih hr]

/-- Of items with writable numbers, the texts that they say are taken. -/
theorem itemTexts_eq {items : List Value} (h : ∀ item ∈ items, item.NumbersWritable) :
    itemTexts items = .ok (items.filterMap written?) := by
  induction items with
  | nil => rfl
  | cons item rest ih =>
    rw [itemTexts_cons, text?_eq (h item (by simp)), ih fun v hv => h v (by simp [hv])]
    cases hw : item.written? <;> simp [bind, Except.bind, hw]

/-- Where the reader of several texts answers, it answers what is written. -/
theorem writtenTexts_of_texts {v : Value} {ts : List String} (h : v.texts = .ok ts) :
    v.writtenTexts = ts := by
  cases v with
  | list items => exact filterMap_of_itemTexts h
  | _ => simpa [texts, writtenTexts] using h

/-- The reader of several texts answers on every value without long numbers. -/
theorem texts_eq {v : Value} (h : v.NumbersWritable) : v.texts = .ok v.writtenTexts := by
  cases v with
  | list items => exact itemTexts_eq (numbersWritable_list.mp h)
  | _ => rfl

/-- A number or a truth value by itself is no list of texts, though it says one. -/
theorem texts_of_not_text {v : Value} {t : String} (h : v.written? = some t) (hne : v ≠ str t) :
    v.texts = .ok [] := by
  cases v with
  | str s => exact absurd (congrArg str (Option.some.inj h)) hne
  | list => cases h
  | _ => rfl

/-- A list of one item has the text of that item, if it has one. -/
theorem texts_singleton (v : Value) : (list [v]).texts = v.text?.map Option.toList := by
  show itemTexts [v] = _
  rw [itemTexts_cons]
  cases v.text? with
  | error e => rfl
  | ok t => cases t <;> rfl

/-- A field that is there stands in a mapping. -/
theorem mem_of_field {v w : Value} {name : String} (h : v.field name = w) (hw : w ≠ null) :
    ∃ fields, v = map fields ∧ (name, w) ∈ fields := by
  cases v with
  | map fields =>
    cases hl : fields.reverse.lookup name with
    | none => exact absurd (by simpa [field, hl] using h.symm) hw
    | some u =>
      obtain ⟨before, after, hsplit, -⟩ := List.lookup_eq_some_iff.mp hl
      have hmem : (name, u) ∈ fields.reverse := by simp [hsplit]
      have hu : u = w := by simpa [field, hl] using h
      exact ⟨fields, rfl, by simpa [hu] using hmem⟩
  | _ => exact absurd (by simpa [field] using h.symm) hw

/-- The fields of a value without long numbers have none either. -/
theorem NumbersWritable.field {v : Value} (h : v.NumbersWritable) (name : String) :
    (v.field name).NumbersWritable := by
  intro n hn
  by_cases hw : v.field name = null
  · rw [hw] at hn
    cases hn
  · obtain ⟨fields, rfl, hmem⟩ := mem_of_field rfl hw
    exact numbersWritable_map.mp h _ hmem n hn

/-- The items of a value with writable numbers have writable numbers. -/
theorem NumbersWritable.items {v w : Value} (h : v.NumbersWritable) (hw : w ∈ v.items) :
    w.NumbersWritable := by
  cases v with
  | list items => exact numbersWritable_list.mp h w hw
  | _ => simp [Value.items] at hw

end DocletPreflight.Yaml.Value
