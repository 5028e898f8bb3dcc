import DocletPreflight.Proofs.Registry.Equality
import DocletPreflight.Proofs.Registry.Sealed

/-!
# Comparing registries by what they hold

Two taglets are alike when they are of one kind and have the same parts, and the places of a block tag are
compared as a set; a taglet that a loaded class made is alike to itself only (`Taglet.Alike`). Registries
that come about compare equal just when they hold alike taglets under every key (`same_iff_holdAlike`). All
else that tells registries apart is passed over: the order of the entries (`same_iff_perm`), a freeze, and
what was under the keys before. `same_extensional` puts these together, and says that the comparison is an
equivalence.

The parts of a taglet that a loaded class made do not tell it apart from another that the class made
(`Taglet.SameParts`). So registries that hold such taglets may hold the same parts under every key, and not
compare equal (`withTodo_not_same`).
-/

set_option autoImplicit false

namespace DocletPreflight

/-- Taglets are alike when they are of one kind and have the same parts. The places where a block tag may
stand are a set. What a loaded class made is alike to itself only. -/
inductive Taglet.Alike : Taglet → Taglet → Prop where
  | block (tag : String) {scopes others : ScopeSet}
      (h : ∀ s, scopes.contains s = true ↔ others.contains s = true) :
      Alike (.block tag scopes) (.block tag others)
  | inline (tag : String) : Alike (.inline tag) (.inline tag)
  | custom (tag : String) (enabled : Bool) (scope title : Option String) :
      Alike (.custom tag enabled scope title) (.custom tag enabled scope title)
  | plugin (p : PluginTaglet) : Alike (.plugin p) (.plugin p)

/-- Taglets have the same parts when they are alike, and also when loaded classes made them and nothing but
their identity tells them apart. -/
inductive Taglet.SameParts : Taglet → Taglet → Prop where
  | alike {t u : Taglet} (h : t.Alike u) : SameParts t u
  | plugin (className name : String) (isInline : Bool) (identity other : Nat) :
      SameParts (.plugin ⟨className, name, isInline, identity⟩) (.plugin ⟨className, name, isInline, other⟩)

/-- Taglets are alike just when they are the same. -/
theorem Taglet.alike_iff {t u : Taglet} : t.Alike u ↔ t = u := by
  constructor
  · rintro (⟨tag, h⟩ | ⟨tag⟩ | ⟨tag, enabled, scope, title⟩ | ⟨p⟩)
    · exact congrArg (Taglet.block tag) (ScopeSet.ext_contains fun s => Bool.eq_iff_iff.mpr (h s))
    all_goals rfl
  · rintro rfl
    cases t with
    | block tag scopes => exact .block tag fun _ => Iff.rfl
    | inline tag => exact .inline tag
    | custom tag enabled scope title => exact .custom tag enabled scope title
    | plugin p => exact .plugin p

/-- A taglet that no loaded class made is alike to all that have the same parts. -/
theorem Taglet.alike_of_sameParts {t u : Taglet} (h : t.SameParts u) (ht : ∀ p, t ≠ .plugin p) :
    t.Alike u := by
  cases h with
  | alike h => exact h
  | plugin className name isInline identity other => exact absurd rfl (ht _)

namespace Registry

/-- Under every key there are alike taglets in both registries, or there is none in both. -/
def HoldAlike (a b : Registry) : Prop := ∀ key, Option.Rel Taglet.Alike (a.get? key) (b.get? key)

/-- Under every key there are taglets with the same parts in both registries, or there is none in both. -/
def HoldSameParts (a b : Registry) : Prop := ∀ key, Option.Rel Taglet.SameParts (a.get? key) (b.get? key)

variable {a b c d : Registry}

/-- Registries hold alike taglets just when the same is found under every key. -/
theorem holdAlike_iff : HoldAlike a b ↔ ∀ key, a.get? key = b.get? key :=
  forall_congr' fun _ => rel_iff_eq fun _ _ => Taglet.alike_iff

/-- Unless loaded classes made some of them, registries hold alike taglets when these have the same parts. -/
theorem holdAlike_iff_holdSameParts (hown : ∀ key p, a.get? key ≠ some (.plugin p)) :
    HoldAlike a b ↔ HoldSameParts a b := by
  constructor
  · intro h key
    exact rel_mono (fun t _ u halike => .alike halike) (h key)
  · intro h key
    refine rel_mono (fun t hget u hparts => Taglet.alike_of_sameParts hparts ?_) (h key)
    rintro p rfl
    exact hown key p hget

/-- Registries that come about compare equal when they hold alike taglets. -/
theorem same_iff_holdAlike (ha : Reachable a) (hb : Reachable b) :
    a.same b = true ↔ HoldAlike a b := by
  rw [same_iff ha.nodup_keys hb.nodup_keys, holdAlike_iff]

/-- Registries compare equal when they have the same entries in any order. -/
theorem same_iff_perm (ha : a.keys.Nodup) (hb : b.keys.Nodup) :
    a.same b = true ↔ a.entries.Perm b.entries := by
  rw [same_iff ha hb, List.perm_ext_iff_of_nodup (List.Nodup.of_map _ ha) (List.Nodup.of_map _ hb)]
  constructor
  · rintro h ⟨key, t⟩
    rw [mem_entries_iff ha, mem_entries_iff hb, h]
  · intro h key
    refine Option.ext fun t => ?_
    rw [← mem_entries_iff ha, ← mem_entries_iff hb, h]

/-- A freeze makes no difference. -/
theorem same_withFrozen (a b : Registry) (frozen other : Bool) :
    (a.withFrozen frozen).same (b.withFrozen other) = a.same b := rfl

/-- What holds alike taglets compares alike with everything. -/
theorem same_congr (ha : Reachable a) (hb : Reachable b) (hc : Reachable c) (hd : Reachable d)
    (hac : HoldAlike a c) (hbd : HoldAlike b d) : c.same d = a.same b := by
  rw [Bool.eq_iff_iff, same_iff hc.nodup_keys hd.nodup_keys, same_iff ha.nodup_keys hb.nodup_keys]
  refine forall_congr' fun key => ?_
  rw [holdAlike_iff.mp hac, holdAlike_iff.mp hbd]

/-- Being the same is an equivalence on the registries that can come about. -/
theorem equivalence_same :
    Equivalence fun c d : { r : Registry // Reachable r } => c.1.same d.1 = true where
  refl c := (same_iff c.2.nodup_keys c.2.nodup_keys).mpr fun _ => rfl
  symm {c d} h := by
    rw [same_iff c.2.nodup_keys d.2.nodup_keys] at h
    exact (same_iff d.2.nodup_keys c.2.nodup_keys).mpr fun key => (h key).symm
  trans {c d e} hcd hde := by
    rw [same_iff c.2.nodup_keys d.2.nodup_keys] at hcd
    rw [same_iff d.2.nodup_keys e.2.nodup_keys] at hde
    exact (same_iff c.2.nodup_keys e.2.nodup_keys).mpr fun key => (hcd key).trans (hde key)

/-! ## What was there before -/

/-- Operations lead from a registry that can come about to another. -/
theorem Reachable.runAll (ha : Reachable a) (ops : List Op) : Reachable (runAll ops a).2 := by
  induction ops generalizing a with
  | nil => exact ha
  | cons op rest ih => exact ih (ha.step (.operate op))

/-- Operations in a row that leave the same under every key leave what compares equal. -/
theorem same_runAll (ha : Reachable a) {ops : List Op}
    (h : ∀ key, (runAll ops a).2.get? key = a.get? key) : (runAll ops a).2.same a = true :=
  (same_iff (ha.runAll ops).nodup_keys ha.nodup_keys).mpr h

section

variable (ha : Reachable a) (hfree : a.frozen = false) {key : String}
include ha hfree

/-- A taglet is taken out and comes again. -/
theorem same_delete_set {t : Taglet} (hget : a.get? key = some t) :
    (runAll [.delete key, .set key (.taglet t)] a).2.same a = true := by
  refine same_runAll ha fun other => ?_
  have hkey := mem_keys_of_get? hget
  simp only [Registry.runAll, perform_delete hfree hkey, perform_set_taglet (r := a.drop key) hfree,
    get?_put, get?_drop]
  split
  next heq => rw [heq, hget]
  next => rfl

/-- A taglet is replaced and comes again. -/
theorem same_set_set {t : Taglet} (hget : a.get? key = some t) (u : Taglet) :
    (runAll [.set key (.taglet u), .set key (.taglet t)] a).2.same a = true := by
  refine same_runAll ha fun other => ?_
  simp only [Registry.runAll, perform_set_taglet hfree, perform_set_taglet (r := a.put key u) hfree,
    get?_put]
  split
  next heq => rw [heq, hget]
  next => rfl

/-- A key comes new and is taken out again. -/
theorem same_set_delete (hget : a.get? key = none) (t : Taglet) :
    (runAll [.set key (.taglet t), .delete key] a).2.same a = true := by
  refine same_runAll ha fun other => ?_
  have hkey : key ∈ (a.put key t).keys := mem_keys_of_get? (t := t) (by rw [get?_put, if_pos rfl])
  simp only [Registry.runAll, perform_set_taglet hfree, perform_delete (r := a.put key t) hfree hkey,
    get?_put, get?_drop]
  split
  next heq => rw [heq, hget]
  next => rfl

end

/-! ## All together -/

/-- Registries that come about compare equal just when there are alike taglets, or none, under every key of
both; when loaded classes made none of them, taglets are alike that have the same parts; and if their
taglets are compared in another way, just when the taglets under every key are. Registries that compare
equal have the same entries in some order, and whether either is frozen makes no difference. Nor does it
what was done to them: registries that hold alike taglets compare alike with all others, and a key whose
taglet is taken out or replaced and comes again, or which comes new and is taken out again, leaves a
registry that compares equal. The comparison is an equivalence. -/
theorem same_extensional (ha : Reachable a) (hb : Reachable b) :
    (a.same b = true ↔ HoldAlike a b) ∧
    ((∀ key p, a.get? key ≠ some (.plugin p)) → (a.same b = true ↔ HoldSameParts a b)) ∧
    (∀ equal : Taglet → Taglet → Bool, a.sameBy equal b = true ↔
      ∀ key, Option.Rel (fun t u => equal t u = true) (a.get? key) (b.get? key)) ∧
    (a.same b = true ↔ a.entries.Perm b.entries) ∧
    (∀ frozen other, (a.withFrozen frozen).same (b.withFrozen other) = a.same b) ∧
    (∀ c d, Reachable c → Reachable d → HoldAlike a c → HoldAlike b d → c.same d = a.same b) ∧
    (a.frozen = false → ∀ key,
      (∀ t, a.get? key = some t →
        (runAll [.delete key, .set key (.taglet t)] a).2.same a = true ∧
        ∀ u, (runAll [.set key (.taglet u), .set key (.taglet t)] a).2.same a = true) ∧
      (a.get? key = none → ∀ t, (runAll [.set key (.taglet t), .delete key] a).2.same a = true)) ∧
    Equivalence fun c d : { r : Registry // Reachable r } => c.1.same d.1 = true := by
  refine ⟨same_iff_holdAlike ha hb, ?_, ?_, same_iff_perm ha.nodup_keys hb.nodup_keys, ?_, ?_, ?_,
    equivalence_same⟩
  · intro hown
    rw [same_iff_holdAlike ha hb, holdAlike_iff_holdSameParts hown]
  · intro equal
    exact sameBy_iff ha.nodup_keys hb.nodup_keys
  · intro frozen other
    exact same_withFrozen a b frozen other
  · intro c d hc hd hac hbd
    exact same_congr ha hb hc hd hac hbd
  · intro hfree key
    refine ⟨fun t hget => ⟨same_delete_set ha hfree hget, same_set_set ha hfree hget⟩, ?_⟩
    intro hget t
    exact same_set_delete ha hfree hget t

/-- The standard registry after a tag that came new and was taken out, one that came again, and a freeze. -/
def standardAgain : Registry :=
  applyAll [.operate (.set "todo" (.taglet (.custom "todo" true none none))), .operate (.delete "see"),
    .operate (.pop "todo" none), .operate (.setDefault "see" (.taglet (.block "see" .full))),
    .operate .freeze] standard

/-- It has the keys in another order than the registry that is made of the standard tags from the last to the
first, and compares equal. -/
theorem standardAgain_same :
    Reachable standardAgain ∧ Reachable (ofTaglets Taglet.standard.reverse) ∧
      standardAgain.keys ≠ (ofTaglets Taglet.standard.reverse).keys ∧
      standardAgain.frozen ≠ (ofTaglets Taglet.standard.reverse).frozen ∧
      standardAgain.same (ofTaglets Taglet.standard.reverse) = true ∧
      HoldAlike standardAgain (ofTaglets Taglet.standard.reverse) ∧
      standardAgain.same (ofTaglets (Taglet.custom "see" true none none :: Taglet.standard)) = true := by
  have hagain : Reachable standardAgain := (reachable_ofTaglets Taglet.standard).applyAll _
  have hback := reachable_ofTaglets Taglet.standard.reverse
  have hcustom := reachable_ofTaglets (Taglet.custom "see" true none none :: Taglet.standard)
  have hperm : standardAgain.entries.Perm (ofTaglets Taglet.standard.reverse).entries := by
    decide +kernel
  have hpermCustom : standardAgain.entries.Perm
      (ofTaglets (Taglet.custom "see" true none none :: Taglet.standard)).entries := by
    decide +kernel
  obtain ⟨hholds, -, -, hentries, -⟩ := same_extensional hagain hback
  have hsame := hentries.mpr hperm
  exact ⟨hagain, hback, by decide +kernel, by decide, hsame, hholds.mp hsame,
    (same_extensional hagain hcustom).2.2.2.1.mpr hpermCustom⟩

/-! ## Taglets of one class -/

/-- A class that makes a tag when it registers. Each time the tag has an identity of its own. -/
def todoMaker (identity : Nat) : TagletClass where
  moduleName := "lib"
  name := "Todo"
  method := .found (.ofOps [.set "todo" (.taglet (.plugin ⟨"lib.Todo", "todo", false, identity⟩))])

/-- The standard registry after the class was loaded into it. -/
def withTodo (identity : Nat) : Registry :=
  (Step.load (.sole (todoMaker identity)) ["lib.Todo"]).apply standard

/-- It has the tag beside the standard ones. -/
theorem withTodo_eq (identity : Nat) :
    withTodo identity = standard.put "todo" (.plugin ⟨"lib.Todo", "todo", false, identity⟩) := rfl

/-- Registries into which the class was loaded one by one hold the same parts under every key, but they do not
compare equal. -/
theorem withTodo_not_same :
    ¬∀ a b : Registry, Reachable a → Reachable b → (a.same b = true ↔ HoldSameParts a b) := by
  intro h
  have hreachable : ∀ identity, Reachable (withTodo identity) := fun identity =>
    (reachable_ofTaglets Taglet.standard).step _
  have hparts : HoldSameParts (withTodo 0) (withTodo 1) := by
    intro key
    rw [withTodo_eq, withTodo_eq, get?_put, get?_put]
    split
    · exact .some (.plugin "lib.Todo" "todo" false 0 1)
    · cases standard.get? key with
      | none => exact .none
      | some t => exact .some (.alike (Taglet.alike_iff.mpr rfl))
  have hsame := (h _ _ (hreachable 0) (hreachable 1)).mpr hparts
  exact absurd hsame (by decide +kernel)

end Registry

end DocletPreflight
