import DocletPreflight.Proofs.Yaml.Settling

/-!
# What keeps tokens from being a tree

Every reader of tokens leaves some of the tokens that it was given, and it fails because a rule of the
format is broken or because it comes to a token that is a fault (`Reads`). The readers of nodes call each
other with less fuel, so this is shown of all of them together, by induction on the fuel
(`readersSound`). With the faults that stand for too many levels, these are the ways in which tokens are
no document (`failsOnly_ofTokens`), and with those in which its nodes have no value, the ways in which a
text cannot be loaded (`failsOnly_load`).
-/

set_option autoImplicit false

namespace DocletPreflight.Yaml

/-- An error is that a rule is broken, or is among the faults of some tokens. -/
def Faulty (ts : List Token) (e : Error) : Prop := e = .malformed ∨ .fault e ∈ ts

/-- A computation on some of the tokens `all` fails for one of their faults, and what it leaves is some of
them. -/
structure Reads {α : Type} (all : List Token) (left : α → List Token) (x : Except Error α) : Prop where
  fails : FailsOnly (Faulty all) x
  leaves : ∀ a, x = .ok a → left a ⊆ all

namespace Reads

variable {α β : Type} {all ts : List Token} {left : α → List Token} {left' : β → List Token}
  {x : Except Error α}

/-- A result that leaves some of the tokens is sound. -/
theorem ok {a : α} (h : left a ⊆ all) : Reads all left (.ok a) :=
  ⟨.ok a, by rintro _ ⟨⟩; exact h⟩

/-- Malformed tokens are a sound reason to fail. -/
theorem malformed : Reads all left (.error .malformed) := ⟨.error (.inl rfl), nofun⟩

/-- Two sound steps are sound together when the second is so on what the first leaves. -/
theorem bind {f : α → Except Error β} (hx : Reads all left x)
    (hf : ∀ a, left a ⊆ all → Reads all left' (f a)) : Reads all left' (x >>= f) := by
  cases x with
  | error e => exact ⟨.error (hx.fails e rfl), nofun⟩
  | ok a => exact hf a (hx.leaves a rfl)

/-- Looking at the next token fails only for a fault among the tokens. -/
theorem ready (h : ts ⊆ all) : Reads all id (Token.ready ts) := by
  unfold Token.ready
  split
  · exact ⟨.error (.inr (h List.mem_cons_self)), nofun⟩
  · exact ok h

/-- The tokens behind what may have been read. -/
def leftBehind (read : Option (α × List Token)) : List Token := (read.map Prod.snd).getD []

/-- A sound step that reads something may be one that reads at most that. -/
theorem map_some {x : Except Error (α × List Token)} (h : Reads all Prod.snd x) :
    Reads all leftBehind (x.map some) := by
  cases x with
  | error e => exact ⟨.error (h.fails e rfl), nofun⟩
  | ok a => exact ok (h.leaves a rfl)

end Reads

open Reads (ok malformed leftBehind)

variable {all ts : List Token}

/-- The tokens behind the first are some of them. -/
theorem subset_of_cons {t : Token} {rest : List Token} (h : t :: rest ⊆ all) : rest ⊆ all :=
  fun _ hmem => h (List.mem_cons_of_mem t hmem)

namespace Tree

/-- Expanding a tag fails only for malformed tokens. -/
theorem reads_expandTag (handles : Handles) (handle : Option String) (suffix : String) :
    Reads all (fun _ => []) (expandTag handles handle suffix) := by
  unfold expandTag
  split
  · exact ok (List.nil_subset _)
  · split
    · exact ok (List.nil_subset _)
    · exact malformed

/-- The properties of a node are read soundly. -/
theorem reads_properties (handles : Handles) (h : ts ⊆ all) :
    Reads all Prod.snd (properties handles ts) := by
  unfold properties
  refine (Reads.ready h).bind fun ts hts => ?_
  split
  · refine (Reads.ready (subset_of_cons hts)).bind fun ts hts => ?_
    split
    · exact (reads_expandTag handles _ _).bind fun tag _ => ok (subset_of_cons hts)
    · exact ok hts
  · refine (Reads.ready (subset_of_cons hts)).bind fun ts hts => ?_
    split
    · exact (reads_expandTag handles _ _).bind fun tag _ => ok (subset_of_cons hts)
    · exact (reads_expandTag handles _ _).bind fun tag _ => ok hts
  · exact ok hts

/-- Looking for the end of an item is sound. -/
theorem reads_nextIn (enders : List Token) (h : ts ⊆ all) :
    Reads all (fun _ => []) (nextIn enders ts) := by
  unfold nextIn
  refine (Reads.ready h).bind fun ts hts => ?_
  split <;> exact ok (List.nil_subset _)

/-- Going on to the next item inside brackets is sound. -/
theorem reads_nextItem (first : Bool) (closing : Token) (h : ts ⊆ all) :
    Reads all id (nextItem first closing ts) := by
  unfold nextItem
  refine (Reads.ready h).bind fun ts hts => ?_
  split
  · split
    · exact ok hts
    · exact Reads.ready (subset_of_cons hts)
  · split
    · exact ok hts
    · exact malformed

/-! ## The readers of nodes -/

/-- All readers of nodes, with some fuel, leave some of the tokens and fail for one of their faults. -/
structure ReadersSound (all : List Token) (fuel : Nat) : Prop where
  node : ∀ handles block indentless ts, ts ⊆ all →
    Reads all Prod.snd (node handles block indentless fuel ts)
  nodeUnless : ∀ enders handles block indentless ts, ts ⊆ all →
    Reads all Prod.snd (nodeUnless enders handles block indentless fuel ts)
  blockItems : ∀ handles ts, ts ⊆ all → Reads all Prod.snd (blockItems handles fuel ts)
  indentlessItems : ∀ handles ts, ts ⊆ all → Reads all Prod.snd (indentlessItems handles fuel ts)
  blockPairs : ∀ handles ts, ts ⊆ all → Reads all Prod.snd (blockPairs handles fuel ts)
  blockValue : ∀ handles ts, ts ⊆ all → Reads all Prod.snd (blockValue handles fuel ts)
  flowItems : ∀ handles first ts, ts ⊆ all → Reads all Prod.snd (flowItems handles first fuel ts)
  flowPairs : ∀ handles first ts, ts ⊆ all → Reads all Prod.snd (flowPairs handles first fuel ts)
  flowValue : ∀ handles closing ts, ts ⊆ all → Reads all Prod.snd (flowValue handles closing fuel ts)

/-- Without fuel, all readers fail soundly. -/
theorem readersSound_zero (all : List Token) : ReadersSound all 0 := by
  constructor
  all_goals intros
  all_goals exact malformed

section Succ

variable {fuel : Nat} (h : ReadersSound all fuel) (hts : ts ⊆ all) (handles : Handles)

include h hts

/-- A node is read soundly if the readers with less fuel are sound. -/
theorem reads_node_succ (block indentless : Bool) :
    Reads all Prod.snd (node handles block indentless (fuel + 1) ts) := by
  unfold node
  split
  case h_1 heq => cases heq
  case h_2 name rest => exact ok (subset_of_cons hts)
  case h_3 fuel' heq _ =>
    obtain rfl : fuel = fuel' := Nat.succ.inj heq
    apply Reads.bind (reads_properties handles hts)
    intro (props, rest) hrest
    apply Reads.bind (Reads.ready hrest)
    intro ts hts
    split
    · exact ok (subset_of_cons hts)
    · apply Reads.bind (h.flowItems handles true _ (subset_of_cons hts))
      intro items hitems
      exact ok hitems
    · apply Reads.bind (h.flowPairs handles true _ (subset_of_cons hts))
      intro pairs hpairs
      exact ok hpairs
    · split
      · apply Reads.bind (h.indentlessItems handles _ hts)
        intro items hitems
        exact ok hitems
      split
      · apply Reads.bind (h.blockItems handles _ (subset_of_cons hts))
        intro items hitems
        exact ok hitems
      split
      · apply Reads.bind (h.blockPairs handles _ (subset_of_cons hts))
        intro pairs hpairs
        exact ok hpairs
      split
      · exact malformed
      · exact ok hts
    · split
      · exact malformed
      · exact ok (List.nil_subset all)

/-- A node that may be missing is read soundly if the readers with less fuel are sound. -/
theorem reads_nodeUnless_succ (enders : List Token) (block indentless : Bool) :
    Reads all Prod.snd (nodeUnless enders handles block indentless (fuel + 1) ts) := by
  rw [nodeUnless]
  apply Reads.bind (reads_nextIn enders hts)
  intro ends _
  split
  · exact ok hts
  · exact h.node handles block indentless ts hts

/-- The items of a block are read soundly if the readers with less fuel are sound. -/
theorem reads_blockItems_succ : Reads all Prod.snd (blockItems handles (fuel + 1) ts) := by
  rw [blockItems]
  apply Reads.bind (Reads.ready hts)
  intro ts hts
  split
  · apply Reads.bind (h.nodeUnless _ handles true false _ (subset_of_cons hts))
    intro item hitem
    apply Reads.bind (h.blockItems handles _ hitem)
    intro items hitems
    exact ok hitems
  · exact ok (subset_of_cons hts)
  · exact malformed

/-- Items without indentation are read soundly if the readers with less fuel are sound. -/
theorem reads_indentlessItems_succ : Reads all Prod.snd (indentlessItems handles (fuel + 1) ts) := by
  rw [indentlessItems]
  apply Reads.bind (Reads.ready hts)
  intro ts hts
  split
  · apply Reads.bind (h.nodeUnless _ handles true false _ (subset_of_cons hts))
    intro item hitem
    apply Reads.bind (h.indentlessItems handles _ hitem)
    intro items hitems
    exact ok hitems
  · exact ok hts

/-- The pairs of a block are read soundly if the readers with less fuel are sound. -/
theorem reads_blockPairs_succ : Reads all Prod.snd (blockPairs handles (fuel + 1) ts) := by
  rw [blockPairs]
  apply Reads.bind (Reads.ready hts)
  intro ts hts
  split
  · apply Reads.bind (h.nodeUnless _ handles true true _ (subset_of_cons hts))
    intro key hkey
    apply Reads.bind (h.blockValue handles _ hkey)
    intro value hvalue
    apply Reads.bind (h.blockPairs handles _ hvalue)
    intro pairs hpairs
    exact ok hpairs
  · exact ok (subset_of_cons hts)
  · exact malformed

/-- A value in a block is read soundly if the readers with less fuel are sound. -/
theorem reads_blockValue_succ : Reads all Prod.snd (blockValue handles (fuel + 1) ts) := by
  rw [blockValue]
  apply Reads.bind (Reads.ready hts)
  intro ts hts
  split
  · exact h.nodeUnless _ handles true true _ (subset_of_cons hts)
  · exact ok hts

/-- The items inside brackets are read soundly if the readers with less fuel are sound. -/
theorem reads_flowItems_succ (first : Bool) :
    Reads all Prod.snd (flowItems handles first (fuel + 1) ts) := by
  rw [flowItems]
  apply Reads.bind (reads_nextItem first _ hts)
  intro ts hts
  split
  · exact ok (subset_of_cons hts)
  · apply Reads.bind (h.nodeUnless _ handles false false _ (subset_of_cons hts))
    intro key hkey
    apply Reads.bind (h.flowValue handles _ _ hkey)
    intro value hvalue
    apply Reads.bind (h.flowItems handles false _ hvalue)
    intro items hitems
    exact ok hitems
  · apply Reads.bind (h.node handles false false _ hts)
    intro item hitem
    apply Reads.bind (h.flowItems handles false _ hitem)
    intro items hitems
    exact ok hitems

/-- The pairs inside braces are read soundly if the readers with less fuel are sound. -/
theorem reads_flowPairs_succ (first : Bool) :
    Reads all Prod.snd (flowPairs handles first (fuel + 1) ts) := by
  rw [flowPairs]
  apply Reads.bind (reads_nextItem first _ hts)
  intro ts hts
  split
  · exact ok (subset_of_cons hts)
  · apply Reads.bind (h.nodeUnless _ handles false false _ (subset_of_cons hts))
    intro key hkey
    apply Reads.bind (h.flowValue handles _ _ hkey)
    intro value hvalue
    apply Reads.bind (h.flowPairs handles false _ hvalue)
    intro pairs hpairs
    exact ok hpairs
  · apply Reads.bind (h.node handles false false _ hts)
    intro key hkey
    apply Reads.bind (h.flowPairs handles false _ hkey)
    intro pairs hpairs
    exact ok hpairs

/-- A value inside brackets or braces is read soundly if the readers with less fuel are sound. -/
theorem reads_flowValue_succ (closing : Token) :
    Reads all Prod.snd (flowValue handles closing (fuel + 1) ts) := by
  rw [flowValue]
  apply Reads.bind (Reads.ready hts)
  intro ts hts
  split
  · exact h.nodeUnless _ handles false false _ (subset_of_cons hts)
  · exact ok hts

end Succ

/-- With any fuel, all readers of nodes are sound. -/
theorem readersSound (all : List Token) (fuel : Nat) : ReadersSound all fuel := by
  induction fuel with
  | zero => exact readersSound_zero all
  | succ fuel ih =>
    exact
      { node := fun handles block indentless _ hts => reads_node_succ ih hts handles block indentless
        nodeUnless := fun enders handles block indentless _ hts =>
          reads_nodeUnless_succ ih hts handles enders block indentless
        blockItems := fun handles _ hts => reads_blockItems_succ ih hts handles
        indentlessItems := fun handles _ hts => reads_indentlessItems_succ ih hts handles
        blockPairs := fun handles _ hts => reads_blockPairs_succ ih hts handles
        blockValue := fun handles _ hts => reads_blockValue_succ ih hts handles
        flowItems := fun handles first _ hts => reads_flowItems_succ ih hts handles first
        flowPairs := fun handles first _ hts => reads_flowPairs_succ ih hts handles first
        flowValue := fun handles closing _ hts => reads_flowValue_succ ih hts handles closing }

/-! ## Documents -/

/-- The directives of a document are read soundly. -/
theorem reads_directives (versioned : Bool) (handles : Handles) (h : ts ⊆ all) :
    Reads all Prod.snd (directives versioned handles ts) := by
  fun_induction directives versioned handles ts with
  | case1 => exact malformed
  | case2 versioned handles major rest hfits ih => exact ih (subset_of_cons h)
  | case3 => exact malformed
  | case4 versioned handles handle expansion rest hfree ih => exact ih (subset_of_cons h)
  | case5 versioned handles rest ih => exact ih (subset_of_cons h)
  | case6 versioned handles e rest => exact ⟨.error (.inr (h List.mem_cons_self)), nofun⟩
  | case7 => exact ok h

/-- The content of a document is read soundly. -/
theorem reads_content (handles : Handles) (fuel : Nat) (h : ts ⊆ all) :
    Reads all Prod.snd (content handles fuel ts) := by
  unfold content
  apply Reads.bind (Reads.ready h)
  intro ts hts
  split
  · exact ok (List.nil_subset all)
  · split
    · exact ok hts
    · exact (readersSound all fuel).node handles true false _ hts

/-- Skipping the ends of documents leaves some of the tokens. -/
theorem skipEnds_subset (h : ts ⊆ all) : skipEnds ts ⊆ all := by
  fun_induction skipEnds ts with
  | case1 rest ih => exact ih (subset_of_cons h)
  | case2 ts => exact h

/-- The start of a document is read soundly. -/
theorem reads_documentStart (h : ts ⊆ all) : Reads all leftBehind (documentStart? ts) := by
  unfold documentStart?
  apply Reads.bind (Reads.ready (skipEnds_subset h))
  intro ts hts
  split
  · exact ok (List.nil_subset all)
  · apply Reads.bind (reads_directives false [] hts)
    intro (handles, rest) hrest
    split
    next heq =>
      cases heq
      exact ok (subset_of_cons hrest)
    · exact malformed

/-- The first document is read soundly. -/
theorem reads_firstDocument (fuel : Nat) (h : ts ⊆ all) :
    Reads all leftBehind (firstDocument? fuel ts) := by
  unfold firstDocument?
  apply Reads.bind (Reads.ready h)
  intro ts hts
  split
  · exact ok (List.nil_subset all)
  · split
    · apply Reads.bind (reads_documentStart hts)
      intro start hstart
      split
      · exact (reads_content _ fuel hstart).map_some
      · exact ok (List.nil_subset all)
    · exact ((readersSound all fuel).node _ true false _ hts).map_some

/-- A text is read soundly from its tokens, once names and nesting are checked. -/
theorem reads_ofTokens (h : Token.checkNesting 0 (Token.checkNames [] ts) ⊆ all) :
    Reads all (fun _ => []) (ofTokens? ts) := by
  unfold ofTokens?
  apply Reads.bind (reads_firstDocument _ h)
  intro document hdocument
  split
  · exact ok (List.nil_subset all)
  next tree rest =>
    have hrest : rest ⊆ all := hdocument
    apply Reads.bind (reads_documentStart hrest)
    intro next _
    split
    · exact ok (List.nil_subset all)
    · exact malformed

end Tree

/-! ## Faults that are added -/

namespace Token

variable {e : Error}

/-- A fault that replaces a node is a malformed one or one of its own. -/
theorem fault_of_mem_faultyNode (h : .fault e ∈ faultyNode ts) : e = .malformed ∨ .fault e ∈ ts := by
  unfold faultyNode at h
  split at h <;> simp_all

/-- Checking names adds only malformed faults. -/
theorem fault_of_mem_checkNames {taken : List String} (h : .fault e ∈ checkNames taken ts) :
    e = .malformed ∨ .fault e ∈ ts := by
  fun_induction checkNames taken ts with
  | case1 => cases h
  | case2 taken name rest hknown ih =>
    rcases List.mem_cons.mp h with heq | hmem
    · cases heq
    · exact (ih hmem).imp_right (List.mem_cons_of_mem _)
  | case3 =>
    obtain heq := List.mem_singleton.mp h
    exact .inl (Token.fault.inj heq)
  | case4 taken name rest ih =>
    rcases List.mem_cons.mp h with heq | hmem
    · cases heq
    · have hrest : e = .malformed ∨ .fault e ∈ rest := by
        split at hmem
        · exact fault_of_mem_faultyNode hmem
        · exact ih hmem
      exact hrest.imp_right (List.mem_cons_of_mem _)
  | case5 taken t rest _ _ ih =>
    rcases List.mem_cons.mp h with heq | hmem
    · exact .inr (heq ▸ List.mem_cons_self)
    · exact (ih hmem).imp_right (List.mem_cons_of_mem _)

/-- Checking the nesting adds only faults of too deep nesting. -/
theorem fault_of_mem_checkNesting {depth : Nat} (h : .fault e ∈ checkNesting depth ts) :
    e = .tooDeep ∨ .fault e ∈ ts := by
  fun_induction checkNesting depth ts with
  | case1 => cases h
  | case2 => exact .inl (Token.fault.inj (List.mem_singleton.mp h))
  | case3 depth t rest hfits ih =>
    rcases List.mem_cons.mp h with heq | hmem
    · exact .inr (heq ▸ List.mem_cons_self)
    · exact (ih hmem).imp_right (List.mem_cons_of_mem _)

end Token

/-! ## Graphs -/

namespace Graph

namespace Composition

mutual

/-- A tree is a graph unless it refers to an anchor that it does not have. -/
theorem failsOnly_ofTree (tree : Tree) (c : Composition) : FailsOnly (· = .malformed) (ofTree tree c) := by
  cases tree with
  | reference name =>
    rw [ofTree]
    split
    · exact .ok _
    · exact .error rfl
  | scalar properties text plain =>
    rw [ofTree]
    exact .ok _
  | sequence properties items =>
    rw [ofTree]
    apply FailsOnly.bind (failsOnly_ofTrees items _)
    intro _
    exact .ok _
  | mapping properties pairs =>
    rw [ofTree]
    apply FailsOnly.bind (failsOnly_ofPairs pairs _)
    intro _
    exact .ok _

/-- Items are composed unless one of them is malformed. -/
theorem failsOnly_ofTrees (trees : List Tree) (c : Composition) :
    FailsOnly (· = .malformed) (ofTrees trees c) := by
  cases trees with
  | nil =>
    rw [ofTrees]
    exact .ok _
  | cons tree rest =>
    rw [ofTrees]
    apply FailsOnly.bind (failsOnly_ofTree tree c)
    intro (number, c)
    apply FailsOnly.bind (failsOnly_ofTrees rest c)
    intro _
    exact .ok _

/-- Pairs are composed unless one of them is malformed. -/
theorem failsOnly_ofPairs (pairs : List (Tree × Tree)) (c : Composition) :
    FailsOnly (· = .malformed) (ofPairs pairs c) := by
  cases pairs with
  | nil =>
    rw [ofPairs]
    exact .ok _
  | cons pair rest =>
    obtain ⟨key, value⟩ := pair
    rw [ofPairs]
    apply FailsOnly.bind (failsOnly_ofTree key c)
    intro (number, c)
    apply FailsOnly.bind (failsOnly_ofTree value c)
    intro (number, c)
    apply FailsOnly.bind (failsOnly_ofPairs rest c)
    intro _
    exact .ok _

end

end Composition

/-- A tree is composed unless it is malformed. -/
theorem failsOnly_ofTree (tree : Tree) : FailsOnly (· = .malformed) (ofTree tree) := by
  rw [ofTree]
  apply FailsOnly.bind (Composition.failsOnly_ofTree tree _)
  intro _
  exact .ok _

end Graph

/-! ## Texts -/

/-- Why a text has no value: it has a fault among its tokens, or what the tokens say cannot be settled. -/
inductive Unloadable (text : List Char) : Error → Prop where
  | fault {e : Error} (h : .fault e ∈ Token.scan text) : Unloadable text e
  | unsettled {e : Error} (h : Unsettled e) : Unloadable text e

/-- Tokens are read as a document unless there is a reason for the text to have no value. -/
theorem failsOnly_ofTokens (text : List Char) :
    FailsOnly (Unloadable text) (Tree.ofTokens? (Token.scan text)) := by
  intro e he
  rcases (Tree.reads_ofTokens (List.Subset.refl _)).fails e he with rfl | hfault
  · exact .unsettled .malformed
  rcases Token.fault_of_mem_checkNesting hfault with rfl | hfault
  · exact .unsettled .tooDeep
  rcases Token.fault_of_mem_checkNames hfault with rfl | hfault
  · exact .unsettled .malformed
  · exact .fault hfault

/-- A text is loaded, or it is unloadable for the reason that is told. -/
theorem failsOnly_load (text : List Char) (depth : Nat) :
    FailsOnly (Unloadable text) (load text depth) := by
  unfold load
  apply FailsOnly.bind (failsOnly_ofTokens text)
  intro document
  split
  · exact .ok _
  next tree =>
    have hgraph : FailsOnly (Unloadable text) (Graph.ofTree tree) := by
      refine (Graph.failsOnly_ofTree tree).mono ?_
      rintro e rfl
      exact .unsettled .malformed
    apply FailsOnly.bind hgraph
    intro (root, nodes)
    exact (nodes.failsOnly_value root depth).mono fun e he => .unsettled he

end DocletPreflight.Yaml
