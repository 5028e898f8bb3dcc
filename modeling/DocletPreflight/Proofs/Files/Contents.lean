import DocletPreflight.Files
import Mathlib.Tactic.Common

/-!
# What files hold

A file tree is looked at through `FileTree.contents?`, the bytes of the file at a place. Writing a file
changes what is there and nothing else (`contents?_put`, `contents?_append`). Opening a path for appending
answers the place that the path has when it is made absolute, where there is a file from then on, with
what it held before (`openForAppend_eq`). Two trees that differ in the bytes of one file only
(`DifferAt`) lead every path to the same place, so that a path which does not lead to this file reads
alike in both (`DifferAt.read_eq`).
-/

set_option autoImplicit false

namespace DocletPreflight.FileTree

variable {tree t u : FileTree} {place other : List String} {bytes : List UInt8}

/-! ## One place -/

/-- The entry that is made for a place is the one that was put there last. -/
theorem entry_put (tree : FileTree) (place other : List String) (entry : FileEntry) :
    (tree.put place entry).entries.find? (·.1 = other) =
      if other = place then some (place, entry) else tree.entries.find? (·.1 = other) := by
  unfold put
  split
  next hany =>
    -- the entry of the place is replaced where it stands, so all keys stay as they are
    rw [List.find?_map]
    have hkeys : ((fun e : List String × FileEntry => decide (e.1 = other)) ∘
        fun e => if e.1 = place then (place, entry) else e) = fun e => decide (e.1 = other) := by
      funext e
      by_cases he : e.1 = place <;> simp [he]
    rw [hkeys]
    split
    next heq =>
      subst heq
      obtain ⟨e, he, hkey⟩ := List.any_eq_true.mp hany
      have hsome : (tree.entries.find? fun e => decide (e.1 = other)).isSome :=
        List.find?_isSome.mpr ⟨e, he, hkey⟩
      obtain ⟨found, hfound⟩ := Option.isSome_iff_exists.mp hsome
      have hname : found.1 = other := by simpa using List.find?_some hfound
      simp [hfound, hname]
    next hne =>
      cases hfound : tree.entries.find? fun e => decide (e.1 = other) with
      | none => rfl
      | some found =>
        have hname : found.1 = other := by simpa using List.find?_some hfound
        simp [hname, hne]
  next hany =>
    rw [List.find?_append]
    split
    next heq =>
      subst heq
      have hnone : (tree.entries.find? fun e => decide (e.1 = other)) = none := by
        rw [List.find?_eq_none]
        intro e he hkey
        exact hany (List.any_eq_true.mpr ⟨e, he, hkey⟩)
      simp [hnone]
    next hne => simp [Ne.symm hne]

/-- A file is found where the first entry for a place other than the root is one. -/
theorem find?_eq_file_iff :
    tree.find? place = some (.file bytes) ↔
      place ≠ [] ∧ tree.entries.find? (·.1 = place) = some (place, .file bytes) := by
  cases place with
  | nil => simp [find?]
  | cons name names =>
    simp only [find?, ne_eq, reduceCtorEq, not_false_eq_true, true_and]
    cases hfound : tree.entries.find? fun e => decide (e.1 = name :: names) with
    | none =>
      simp only [reduceCtorEq, iff_false]
      split <;> simp
    | some found =>
      have hname : found.1 = name :: names := by simpa using List.find?_some hfound
      rw [← hname]
      simp [Prod.ext_iff]

/-- The contents of a place are the bytes of the file that is found there. -/
theorem contents?_eq_some_iff :
    tree.contents? place = some bytes ↔ tree.find? place = some (.file bytes) := by
  unfold contents?
  split
  next held h => simp [h]
  next h => simpa using h bytes

/-- Putting a file at a place changes what is held there only. -/
theorem contents?_put (hplace : place ≠ []) (bytes : List UInt8) (other : List String) :
    (tree.put place (.file bytes)).contents? other =
      if other = place then some bytes else tree.contents? other := by
  split
  next heq =>
    subst heq
    rw [contents?_eq_some_iff, find?_eq_file_iff, entry_put, if_pos rfl]
    exact ⟨hplace, rfl⟩
  next hne =>
    refine Option.ext fun held => ?_
    rw [contents?_eq_some_iff, contents?_eq_some_iff, find?_eq_file_iff, find?_eq_file_iff, entry_put,
      if_neg hne]

/-- Writing at the end of a file changes what is held there only. -/
theorem contents?_append (tree : FileTree) (place other : List String) (text : String) :
    (tree.append place text).contents? other =
      if other = place then (tree.contents? place).map (· ++ Text.encodeUtf8 text)
      else tree.contents? other := by
  unfold append
  split
  next held h =>
    rw [contents?_put (find?_eq_file_iff.mp h).1, contents?_eq_some_iff.mpr h, Option.map_some]
  next h =>
    have hnone : tree.contents? place = none :=
      Option.eq_none_iff_forall_ne_some.mpr fun held hheld => h held (contents?_eq_some_iff.mp hheld)
    split
    next heq => rw [heq, hnone, Option.map_none]
    next => rfl

/-! ## Ways -/

/-- A way through several names is a way through the first of them, and from where it leads through the
rest. -/
theorem walk_append (tree : FileTree) (place : List String) (entry : FileEntry)
    (names more : List String) :
    tree.walk place entry (names ++ more) =
      (tree.walk place entry names).bind fun reached => tree.walk reached.1 reached.2 more := by
  induction names generalizing place entry with
  | nil => cases entry <;> rfl
  | cons name names ih =>
    cases entry with
    | file held => rfl
    | directory =>
      rw [List.cons_append, walk, walk]
      cases tree.step place name with
      | error reason => rfl
      | ok next => exact ih next.1 next.2

/-- A step to a name other than the way back ends at the entry of that name. -/
theorem step_of_ok {name : String} {reached : List String × FileEntry} (hname : name ≠ "..")
    (h : tree.step place name = .ok reached) :
    reached.1 = place ++ [name] ∧ tree.find? reached.1 = some reached.2 := by
  unfold step at h
  rw [if_neg hname] at h
  split at h
  · cases h
  · split at h
    next entry hentry =>
      cases h
      exact ⟨rfl, hentry⟩
    next => cases h

/-- A step fails for want of an entry only where there is none. -/
theorem find?_of_step_notFound {name : String} (hname : name ≠ "..")
    (h : tree.step place name = .error .notFound) : tree.find? (place ++ [name]) = none := by
  unfold step at h
  rw [if_neg hname] at h
  split at h
  · cases h
  · split at h
    · cases h
    next hnone => exact hnone

/-- A way that never leads back ends at the names that were followed. -/
theorem walk_of_ok {names : List String} {entry : FileEntry} {reached : List String × FileEntry}
    (hnames : ".." ∉ names) (hentry : tree.find? place = some entry)
    (h : tree.walk place entry names = .ok reached) :
    reached.1 = place ++ names ∧ tree.find? reached.1 = some reached.2 := by
  induction names generalizing place entry with
  | nil =>
    cases entry <;> (cases h; exact ⟨(List.append_nil _).symm, hentry⟩)
  | cons name names ih =>
    cases entry with
    | file held => cases h
    | directory =>
      rw [walk] at h
      cases hstep : tree.step place name with
      | error reason =>
        rw [hstep] at h
        cases h
      | ok next =>
        rw [hstep] at h
        have hback : name ≠ ".." := fun heq => hnames (by simp [heq])
        obtain ⟨hplace, hnext⟩ := step_of_ok hback hstep
        obtain ⟨hreached, hfound⟩ := ih (fun hmem => hnames (by simp [hmem])) hnext h
        refine ⟨?_, hfound⟩
        rw [hreached, hplace, List.append_assoc, List.singleton_append]

/-! ## Opening -/

/-- What is left when every `..` has taken back a name holds none of them. -/
theorem not_mem_collapse (names : List String) : ".." ∉ NormalPath.collapse names := by
  have hkept : ∀ kept : List String, ".." ∉ kept →
      ".." ∉ names.foldl (fun kept name => if name = ".." then kept.drop 1 else name :: kept) kept := by
    induction names with
    | nil => exact fun kept h => h
    | cons name names ih =>
      intro kept h
      rw [List.foldl_cons]
      refine ih _ ?_
      by_cases hname : name = ".."
      · rw [if_pos hname]
        exact fun hmem => h (List.mem_of_mem_drop hmem)
      · simp [hname, Ne.symm hname, h]
  rw [NormalPath.collapse, List.mem_reverse]
  exact hkept [] (by simp)

/-- An absolute path has no way back in it. -/
theorem not_mem_absolute (workingDirectory : List String) (p : NormalPath) :
    ".." ∉ (p.absolute workingDirectory).names := by
  unfold NormalPath.absolute
  split <;> exact not_mem_collapse _

/-- What an absolute path comes to is what its names do, unless it is too long to be followed. -/
theorem walk_of_locate {p : NormalPath} {reached : Except FileRefusal (List String × FileEntry)}
    (h : tree.locate [] p = reached) (hshort : reached ≠ .error .nameTooLong) :
    tree.walk [] .directory p.names = reached := by
  unfold locate at h
  split at h
  · exact absurd h.symm hshort
  · simpa using h

/-- A path whose last name is the only one that is missing has nothing at its place. -/
theorem contents?_of_missing {names : List String} {name : String} {above : List String}
    (hname : name ≠ "..") (habove : tree.walk [] .directory names = .ok (above, .directory))
    (h : tree.walk [] .directory (names ++ [name]) = .error .notFound) :
    tree.contents? (above ++ [name]) = none := by
  rw [walk_append, habove] at h
  have hstep : tree.step above name = .error .notFound := by
    cases hstep : tree.step above name with
    | error reason => simpa [walk, hstep, Except.bind] using h
    | ok next => cases hentry : next.2 <;> simp [walk, hstep, hentry, Except.bind] at h
  rw [contents?, find?_of_step_notFound hname hstep]

/-- An absolute path without steps back that could be opened has a file at its names from then on, with
what the file held before. -/
theorem openAt_eq {p : NormalPath} (hnames : ".." ∉ p.names) (h : tree.openAt p = .ok (place, t)) :
    place = p.names ∧ ∀ other, t.contents? other =
      if other = place then some ((tree.contents? place).getD []) else tree.contents? other := by
  unfold openAt at h
  split at h
  next found held hlocate =>
    cases h
    obtain ⟨hplace, hfound⟩ := walk_of_ok hnames rfl (walk_of_locate hlocate (by simp))
    refine ⟨hplace, fun other => ?_⟩
    have hheld : tree.contents? place = some held := contents?_eq_some_iff.mpr hfound
    split
    next heq => rw [heq, hheld, Option.getD_some]
    next => rfl
  · cases h
  next hlocate =>
    split at h
    next above name hparent hlast =>
      cases h
      obtain ⟨names, hsplit⟩ := List.getLast?_eq_some_iff.mp hlast
      rw [hsplit, List.dropLast_concat] at hparent
      have hwalk := walk_of_locate hlocate (by simp)
      rw [hsplit] at hwalk hnames
      obtain ⟨habove, -⟩ := walk_of_ok (fun hmem => hnames (by simp [hmem])) rfl hparent
      have hmissing : tree.contents? (above ++ [name]) = none :=
        contents?_of_missing (fun heq => hnames (by simp [heq])) hparent hwalk
      refine ⟨?_, fun other => ?_⟩
      · rw [hsplit]
        exact congrArg (· ++ [name]) habove
      · rw [hmissing, contents?_put (by simp), Option.getD_none]
    · cases h
    · cases h
  · cases h

/-- A path that was opened for appending has a file at its place, seen from the root, with what the file
held before; nothing else changes. -/
theorem openForAppend_eq {workingDirectory : List String} {p : NormalPath}
    (h : tree.openForAppend workingDirectory p = .ok (place, t)) :
    place = (p.absolute workingDirectory).names ∧ ∀ other, t.contents? other =
      if other = place then some ((tree.contents? place).getD []) else tree.contents? other := by
  unfold openForAppend at h
  simp only at h
  split at h
  · cases h
  · split at h
    next opened hopened =>
      cases h
      exact openAt_eq (not_mem_absolute workingDirectory p) hopened
    · cases h

/-- A file that is read has a path without fault and is located by it. -/
theorem locate_of_read {workingDirectory : List String} {p : NormalPath}
    (h : tree.read workingDirectory p = .ok bytes) :
    p.fault? = none ∧ ∃ place, tree.locate workingDirectory p = .ok (place, .file bytes) := by
  unfold read at h
  split at h
  · cases h
  next hfault =>
    split at h
    next place held hlocate =>
      cases h
      exact ⟨hfault, place, hlocate⟩
    · cases h
    · cases h

/-- Two trees hold the same but for the bytes of one file, which both of them have. -/
structure DifferAt (place : List String) (t u : FileTree) : Prop where
  elsewhere : ∀ other, other ≠ place → u.find? other = t.find? other
  left : ∃ bytes, t.find? place = some (.file bytes)
  right : ∃ bytes, u.find? place = some (.file bytes)

/-- A tree differs from itself at most in any of its files. -/
theorem DifferAt.refl (h : tree.contents? place = some bytes) : DifferAt place tree tree :=
  ⟨fun _ _ => rfl, ⟨bytes, contents?_eq_some_iff.mp h⟩, ⟨bytes, contents?_eq_some_iff.mp h⟩⟩

/-- Differing in one file goes both ways. -/
theorem DifferAt.symm (h : DifferAt place t u) : DifferAt place u t :=
  ⟨fun other hne => (h.elsewhere other hne).symm, h.right, h.left⟩

/-- Differing in one file goes through a third tree. -/
theorem DifferAt.trans {v : FileTree} (h : DifferAt place t u) (h' : DifferAt place u v) :
    DifferAt place t v :=
  ⟨fun other hne => (h'.elsewhere other hne).trans (h.elsewhere other hne), h.left, h'.right⟩

/-- A text is appended to a file by its bytes. -/
theorem append_of_contents? (h : tree.contents? place = some bytes) (text : String) :
    tree.append place text = tree.put place (.file (bytes ++ Text.encodeUtf8 text)) := by
  rw [append, contents?_eq_some_iff.mp h]

/-- Below the root, the first entry for a place decides what is found. -/
theorem find?_cons (tree : FileTree) (name : String) (names : List String) :
    tree.find? (name :: names) =
      match tree.entries.find? (·.1 = name :: names) with
      | some entry => some entry.2
      | none =>
        if tree.entries.any fun e => (name :: names).isPrefixOf e.1 then some .directory else none :=
  rfl

/-- Over an entry that is there, another one makes no difference to what stands elsewhere. -/
theorem find?_put_of_file {held : List UInt8} (h : tree.find? place = some (.file held))
    (entry : FileEntry) (hne : other ≠ place) : (tree.put place entry).find? other = tree.find? other := by
  cases other with
  | nil => rfl
  | cons name names =>
    obtain ⟨-, hentry⟩ := find?_eq_file_iff.mp h
    have hany : tree.entries.any (·.1 = place) = true :=
      List.any_eq_true.mpr ⟨_, List.mem_of_find?_eq_some hentry, by simp⟩
    have hbelow : (tree.put place entry).entries.any (fun e => (name :: names).isPrefixOf e.1) =
        tree.entries.any fun e => (name :: names).isPrefixOf e.1 := by
      rw [put, if_pos hany, List.any_map]
      congr 1
      funext e
      by_cases he : e.1 = place <;> simp [he]
    rw [find?_cons, find?_cons, entry_put, if_neg hne, hbelow]

/-- Appending to a file changes nothing else. -/
theorem differAt_append (h : tree.contents? place = some bytes) (text : String) :
    DifferAt place tree (tree.append place text) := by
  have hfound := contents?_eq_some_iff.mp h
  rw [append_of_contents? h]
  refine ⟨fun other hne => find?_put_of_file hfound _ hne, ⟨bytes, hfound⟩,
    bytes ++ Text.encodeUtf8 text, ?_⟩
  rw [← contents?_eq_some_iff, contents?_put (find?_eq_file_iff.mp hfound).1, if_pos rfl]

/-- A step leads to the same in both trees, or to the file in both. -/
theorem DifferAt.step_eq_or (h : DifferAt place t u) (from_ : List String) (name : String) :
    u.step from_ name = t.step from_ name ∨
      ∃ held held', t.step from_ name = .ok (place, .file held) ∧
        u.step from_ name = .ok (place, .file held') := by
  by_cases hback : name = ".."
  · exact .inl (by simp [step, hback])
  · by_cases hlong : nameLimit < byteLength name
    · exact .inl (by simp [step, hback, hlong])
    · by_cases hplace : from_ ++ [name] = place
      · obtain ⟨held, hheld⟩ := h.left
        obtain ⟨held', hheld'⟩ := h.right
        exact .inr ⟨held, held', by simp [step, hback, hlong, hplace, hheld],
          by simp [step, hback, hlong, hplace, hheld']⟩
      · exact .inl (by simp [step, hback, hlong, h.elsewhere _ hplace])

/-- A way that does not end at the file leads to the same in both trees. -/
theorem DifferAt.walk_eq (h : DifferAt place t u) {names from_ : List String} {entry : FileEntry}
    (hother : ∀ held, t.walk from_ entry names ≠ .ok (place, .file held)) :
    u.walk from_ entry names = t.walk from_ entry names := by
  induction names generalizing from_ entry with
  | nil => cases entry <;> rfl
  | cons name names ih =>
    cases entry with
    | file held => rfl
    | directory =>
      rw [walk] at hother ⊢
      rw [walk]
      rcases h.step_eq_or from_ name with hstep | ⟨held, held', hleft, hright⟩
      · rw [hstep]
        cases hnext : t.step from_ name with
        | error reason => rfl
        | ok next =>
          rw [hnext] at hother
          exact ih hother
      · -- there is no way on from a file, and none ends at this one
        rw [hleft] at hother ⊢
        rw [hright]
        cases names with
        | nil => exact absurd rfl (hother held)
        | cons name names => rfl

/-- A path that does not lead to the file reads alike in both trees. -/
theorem DifferAt.read_eq (h : DifferAt place t u) {workingDirectory : List String} {p : NormalPath}
    (hother : ∀ held, t.locate workingDirectory p ≠ .ok (place, .file held)) :
    u.read workingDirectory p = t.read workingDirectory p := by
  have hlocate : u.locate workingDirectory p = t.locate workingDirectory p := by
    unfold locate at hother ⊢
    split
    · rfl
    next hlong =>
      rw [if_neg hlong] at hother
      exact h.walk_eq hother
  rw [read, read, hlocate]

end DocletPreflight.FileTree
