import DocletPreflight.Yaml.Load

/-!
# What keeps a document from having a value

Giving the nodes of a document their values can go wrong in few ways (`Unsettled`): the document breaks a
rule of the format, mappings stand for a scalar one inside the other without an end, a mapping is typed as
a point in time, or the text of a scalar stands for nothing of the kind that its tag says. Every step of
`Settling` is shown to fail in these ways only, and so is the whole (`failsOnly_value`).
-/

set_option autoImplicit false

namespace DocletPreflight

/-! ## Computations that fail in some ways only -/

/-- The errors that a computation may come to satisfy a condition. -/
def FailsOnly {ε α : Type} (P : ε → Prop) (x : Except ε α) : Prop := ∀ e, x = .error e → P e

namespace FailsOnly

variable {ε α β : Type} {P Q : ε → Prop} {x : Except ε α}

/-- A result is no failure. -/
theorem ok (a : α) : FailsOnly P (.ok a) := nofun

/-- An error that satisfies the condition may be come to. -/
theorem error {e : ε} (h : P e) : FailsOnly P (.error e : Except ε α) := by
  intro e' he
  cases he
  exact h

/-- A condition may be weakened. -/
theorem mono (hx : FailsOnly P x) (h : ∀ e, P e → Q e) : FailsOnly Q x := fun e he => h e (hx e he)

/-- Two steps fail in some ways only if each of them does. -/
theorem bind {f : α → Except ε β} (hx : FailsOnly P x) (hf : ∀ a, FailsOnly P (f a)) :
    FailsOnly P (x >>= f) := by
  cases x with
  | error e => exact error (hx e rfl)
  | ok a => exact hf a

/-- A fold fails in some ways only if its step does. -/
theorem foldlM {f : β → α → Except ε β} (hf : ∀ b a, FailsOnly P (f b a)) (items : List α) (b : β) :
    FailsOnly P (items.foldlM f b) := by
  induction items generalizing b with
  | nil => exact ok b
  | cons item items ih =>
    rw [List.foldlM_cons]
    exact (hf b item).bind ih

/-- Going through a list fails in some ways only if each step does. -/
theorem mapM {f : α → Except ε β} (hf : ∀ a, FailsOnly P (f a)) (items : List α) :
    FailsOnly P (items.mapM f) := by
  induction items with
  | nil => exact ok []
  | cons item items ih =>
    rw [List.mapM_cons]
    apply bind (hf item)
    intro b
    apply bind ih
    intro bs
    exact ok (b :: bs)

end FailsOnly

namespace Yaml

/-! ## The steps -/

/-- Why the nodes of a document cannot be given their values. -/
inductive Unsettled : Error → Prop where
  | malformed : Unsettled .malformed
  | tooDeep : Unsettled .tooDeep
  | timeOfMapping : Unsettled .timeOfMapping
  | scalar {tag : Tag} {text : String} {e : Error} (h : Scalar.value tag text = .error e) : Unsettled e

namespace Settling

open FailsOnly (ok error bind)

/-- Finding a node fails only as settling may. -/
theorem failsOnly_node (s : Settling) (number : Nat) : FailsOnly Unsettled (s.node number) := by
  unfold node
  split
  · exact ok _
  · exact error .malformed

/-- Finding the text of a scalar fails only as settling may. -/
theorem failsOnly_scalarText (s : Settling) (fuel number : Nat) :
    FailsOnly Unsettled (s.scalarText fuel number) := by
  induction fuel generalizing number with
  | zero => exact error .tooDeep
  | succ fuel ih =>
    unfold scalarText
    apply bind (s.failsOnly_node number)
    intro n
    split
    · exact ok _
    · exact error .malformed
    · split
      · exact ih _
      · exact error .malformed

/-- Visiting a node fails only as settling may. -/
theorem failsOnly_visit (number : Nat) (s : Settling) : FailsOnly Unsettled (s.visit number) := by
  unfold visit
  split
  · exact ok s
  · apply bind (s.failsOnly_node number)
    intro n
    simp only
    split
    case h_6 => exact error .malformed
    case h_7 => exact error .malformed
    case h_8 => exact error .malformed
    case h_9 =>
      apply bind (s.failsOnly_scalarText _ number)
      intro text
      split
      · exact error .timeOfMapping
      · have hvalue : FailsOnly Unsettled (Scalar.value n.tag text) := fun e he => .scalar he
        exact hvalue.bind fun v => ok _
    all_goals exact ok _

/-- Visiting nodes one after another fails only as settling may. -/
theorem failsOnly_visitAll (numbers : List Nat) (s : Settling) :
    FailsOnly Unsettled (s.visitAll numbers) := by
  induction numbers generalizing s with
  | nil => exact ok s
  | cons number rest ih => exact (s.failsOnly_visit number).bind ih

/-- Visiting keys and values fails only as settling may. -/
theorem failsOnly_visitPairs (anyKey : Bool) (pairs : List (Nat × Nat)) (s : Settling) :
    FailsOnly Unsettled (s.visitPairs anyKey pairs) := by
  induction pairs generalizing s with
  | nil => exact ok s
  | cons pair rest ih =>
    obtain ⟨key, value⟩ := pair
    apply bind (s.failsOnly_visit key)
    intro s
    split
    · exact error .malformed
    · exact (s.failsOnly_visit value).bind ih

/-- Finding the pairs of a mapping fails only as settling may. -/
theorem failsOnly_pairsOf (s : Settling) (number : Nat) : FailsOnly Unsettled (s.pairsOf number) := by
  unfold pairsOf
  apply bind (s.failsOnly_node number)
  intro n
  split
  · exact ok _
  · exact error .malformed

/-- Merging mappings fails only as settling may. -/
theorem failsOnly_merge (fuel number : Nat) (merged : List (Nat × Nat)) (s : Settling) :
    FailsOnly Unsettled (s.merge number fuel merged) := by
  induction fuel generalizing number merged s with
  | zero => exact error .malformed
  | succ fuel ih =>
    unfold merge
    apply bind (s.failsOnly_pairsOf number)
    intro pairs
    split
    · exact ok _
    next source others htake =>
      apply bind (failsOnly_node _ source)
      intro n
      split
      · apply bind (ih source [] _)
        intro s
        exact (s.failsOnly_pairsOf source).bind fun pairs => ih number _ s
      next items hitems =>
        refine bind (.foldlM ?_ items _) fun (s, lists) => ih number _ s
        intro (s, lists) item
        apply bind (s.failsOnly_pairsOf item)
        intro _
        apply bind (ih item [] s)
        intro s
        exact (s.failsOnly_pairsOf item).bind fun pairs => ok _
      · exact error .malformed

/-- Finding a single pair fails only as settling may. -/
theorem failsOnly_singlePair (s : Settling) (number : Nat) :
    FailsOnly Unsettled (s.singlePair number) := by
  unfold singlePair
  apply bind (s.failsOnly_pairsOf number)
  intro pairs
  split
  · exact ok _
  · exact error .malformed

/-- Visiting single pairs fails only as settling may. -/
theorem failsOnly_visitSingles (numbers : List Nat) (s : Settling) :
    FailsOnly Unsettled (s.visitSingles numbers) := by
  induction numbers generalizing s with
  | nil => exact ok s
  | cons number rest ih =>
    apply bind (s.failsOnly_singlePair number)
    intro pair
    exact (s.failsOnly_visitPairs true [pair]).bind ih

/-- Settling a collection fails only as settling may. -/
theorem failsOnly_settle (number : Nat) (s : Settling) : FailsOnly Unsettled (s.settle number) := by
  unfold settle
  apply bind (s.failsOnly_node number)
  intro n
  split
  · exact (s.failsOnly_visitAll _).bind fun s => ok _
  · apply bind (s.failsOnly_merge _ number [])
    intro s
    apply bind (s.failsOnly_pairsOf number)
    intro pairs
    exact (s.failsOnly_visitPairs false pairs).bind fun s => ok _
  · apply bind (s.failsOnly_merge _ number [])
    intro s
    exact (s.failsOnly_pairsOf number).bind fun pairs => s.failsOnly_visitPairs false pairs
  · exact (s.failsOnly_visitSingles _).bind fun s => ok _
  · exact error .malformed

/-- Settling all collections that wait fails only as settling may. -/
theorem failsOnly_run (fuel place : Nat) (s : Settling) : FailsOnly Unsettled (s.run fuel place) := by
  induction fuel generalizing place s with
  | zero => exact error .malformed
  | succ fuel ih =>
    unfold run
    split
    · exact ok s
    next number hnumber => exact (s.failsOnly_settle number).bind (ih (place + 1))

end Settling

/-- A graph has a value, or is unsettled. -/
theorem Graph.failsOnly_value (nodes : Graph) (root depth : Nat) :
    FailsOnly Unsettled (nodes.value root depth) := by
  unfold value
  apply FailsOnly.bind (Settling.failsOnly_visit root _)
  intro s
  exact (Settling.failsOnly_run _ 0 s).bind fun s => .ok _

end Yaml

end DocletPreflight
