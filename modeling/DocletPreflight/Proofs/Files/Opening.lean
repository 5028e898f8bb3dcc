import DocletPreflight.Proofs.Files.Contents

/-!
# What keeps a file from being opened

A file is opened for appending at an absolute path, on which nothing leads back. Every name of the path but
the last must be that of a directory, and the last must not be. The first thing that is in the way decides
the refusal (`Bars`, `openAt_eq_error_iff`), and a path that is none comes to no refusal
(`openForAppend_eq_error_iff`). A file that was created for this is the only thing that is new: what could be
read before can be read afterwards (`read_openForAppend`), and what else can be read then could be read before
(`read_of_openForAppend`).
-/

set_option autoImplicit false

namespace DocletPreflight.FileTree

variable {tree t : FileTree} {place above below names : List String} {name : String}
  {bytes : List UInt8}

/-! ## Ways down -/

/-- Names lead from the root down through directories, and none of them is too long. -/
inductive LeadsDown (tree : FileTree) : List String → Prop where
  | root : LeadsDown tree []
  | down {above : List String} {name : String} (habove : LeadsDown tree above)
      (hname : byteLength name ≤ nameLimit)
      (hdirectory : tree.find? (above ++ [name]) = some .directory) : LeadsDown tree (above ++ [name])

/-- A way down ends at a directory. -/
theorem LeadsDown.find?_eq (h : tree.LeadsDown names) : tree.find? names = some .directory := by
  cases h with
  | root => rfl
  | down habove hname hdirectory => exact hdirectory

/-- Whatever stands above a way down is a way down. -/
theorem LeadsDown.of_append (h : tree.LeadsDown names) (heq : names = above ++ below) :
    tree.LeadsDown above := by
  induction h generalizing below with
  | root =>
    obtain ⟨rfl, -⟩ := List.append_eq_nil_iff.mp heq.symm
    exact .root
  | @down before last hbefore hlast hdirectory ih =>
    rcases List.eq_nil_or_concat below with rfl | ⟨rest, other, rfl⟩
    · rw [List.append_nil] at heq
      exact heq ▸ .down hbefore hlast hdirectory
    · rw [List.concat_eq_append, ← List.append_assoc] at heq
      exact ih (List.append_inj_left' heq rfl)

/-- A step to the name of an entry ends at it, if the name is not too long. -/
theorem step_of_found {entry : FileEntry} (hback : name ≠ "..") (hname : byteLength name ≤ nameLimit)
    (hentry : tree.find? (place ++ [name]) = some entry) :
    tree.step place name = .ok (place ++ [name], entry) := by
  rw [step, if_neg hback, if_neg (Nat.not_lt.mpr hname), hentry]

/-- A step to a name without an entry is refused as not found. -/
theorem step_of_missing (hback : name ≠ "..") (hname : byteLength name ≤ nameLimit)
    (hnone : tree.find? (place ++ [name]) = none) : tree.step place name = .error .notFound := by
  rw [step, if_neg hback, if_neg (Nat.not_lt.mpr hname), hnone]

/-- A step to a name that is too long is refused for its length. -/
theorem step_of_longName (hback : name ≠ "..") (hname : nameLimit < byteLength name) :
    tree.step place name = .error .nameTooLong := by
  rw [step, if_neg hback, if_pos hname]

/-- A walk goes on from where its first step ends. -/
theorem walk_cons_of_ok {next : List String} {entry : FileEntry}
    (h : tree.step place name = .ok (next, entry)) (rest : List String) :
    tree.walk place .directory (name :: rest) = tree.walk next entry rest := by
  rw [walk, h]

/-- A walk ends where its first step is refused. -/
theorem walk_cons_of_error {reason : FileRefusal} (h : tree.step place name = .error reason)
    (rest : List String) : tree.walk place .directory (name :: rest) = .error reason := by
  rw [walk, h]

/-- A way down is followed to its end, and from there on. -/
theorem LeadsDown.walk_append (h : tree.LeadsDown names) (hback : ".." ∉ names) (rest : List String) :
    tree.walk [] .directory (names ++ rest) = tree.walk names .directory rest := by
  induction h generalizing rest with
  | root => rfl
  | @down above name habove hname hdirectory ih =>
    have hlast : name ≠ ".." := fun heq => hback (by simp [heq])
    rw [List.append_assoc, ih (fun hmem => hback (by simp [hmem])), List.singleton_append,
      walk_cons_of_ok (step_of_found hlast hname hdirectory)]

/-- A way down can be walked to its end. -/
theorem LeadsDown.walk_eq (h : tree.LeadsDown names) (hback : ".." ∉ names) :
    tree.walk [] .directory names = .ok (names, .directory) := by
  have hwalk := h.walk_append hback []
  rw [List.append_nil] at hwalk
  rw [hwalk, walk]

/-- What a name leads to that is not the name of a directory in reach. -/
inductive StopsAt (tree : FileTree) (above : List String) (name : String) : Prop where
  | long (h : nameLimit < byteLength name)
  | missing (hname : byteLength name ≤ nameLimit) (h : tree.find? (above ++ [name]) = none)
  | file {held : List UInt8} (hname : byteLength name ≤ nameLimit)
      (h : tree.find? (above ++ [name]) = some (.file held))

/-- Below a way down, names lead down further, or they stop at one of them. -/
theorem LeadsDown.append_or (habove : tree.LeadsDown above) (names : List String) :
    tree.LeadsDown (above ++ names) ∨
      ∃ before name below, names = before ++ name :: below ∧ tree.LeadsDown (above ++ before) ∧
        tree.StopsAt (above ++ before) name := by
  induction names generalizing above with
  | nil => exact .inl (by rwa [List.append_nil])
  | cons name names ih =>
    have hstop : tree.StopsAt above name → ∃ before other below, name :: names = before ++ other :: below ∧
        tree.LeadsDown (above ++ before) ∧ tree.StopsAt (above ++ before) other := fun h =>
      ⟨[], name, names, rfl, by rwa [List.append_nil], by rwa [List.append_nil]⟩
    rcases Nat.lt_or_ge nameLimit (byteLength name) with hlong | hshort
    · exact .inr (hstop (.long hlong))
    · cases hfind : tree.find? (above ++ [name]) with
      | none => exact .inr (hstop (.missing hshort hfind))
      | some entry =>
        cases entry with
        | file held => exact .inr (hstop (.file hshort hfind))
        | directory =>
          rcases ih (habove.down hshort hfind) with hdown | ⟨before, other, below, rfl, hdown, hstops⟩
          · exact .inl (by simpa using hdown)
          · exact .inr ⟨name :: before, other, below, rfl, by simpa using hdown, by simpa using hstops⟩

/-! ## Refusals -/

/-- A path comes down to a name on it. -/
structure ComesTo (tree : FileTree) (p : NormalPath) (above : List String) (name : String)
    (below : List String) : Prop where
  short : byteLength p.text ≤ pathLimit
  names_eq : p.names = above ++ name :: below
  way : tree.LeadsDown above

/-- What is in the way of opening the file at an absolute path. The path or a name on it is too long, a
directory on the way is missing, the way leads through a file, or it leads to a directory. -/
inductive Bars (tree : FileTree) (p : NormalPath) : FileRefusal → Prop where
  | longPath (h : pathLimit < byteLength p.text) : Bars tree p .nameTooLong
  | longName {above below : List String} {name : String} (hway : tree.ComesTo p above name below)
      (hname : nameLimit < byteLength name) : Bars tree p .nameTooLong
  | missingDirectory {above below : List String} {name : String}
      (hway : tree.ComesTo p above name below) (hname : byteLength name ≤ nameLimit)
      (hnone : tree.find? (above ++ [name]) = none) (hbelow : below ≠ []) : Bars tree p .notFound
  | throughFile {above below : List String} {name : String} {held : List UInt8}
      (hway : tree.ComesTo p above name below) (hname : byteLength name ≤ nameLimit)
      (hfile : tree.find? (above ++ [name]) = some (.file held)) (hbelow : below ≠ []) :
      Bars tree p .notDirectory
  | directory (hshort : byteLength p.text ≤ pathLimit) (hway : tree.LeadsDown p.names) :
      Bars tree p .isDirectory

/-- Nothing is in the way: the last name is that of a file, or of nothing. -/
inductive Clears (tree : FileTree) (p : NormalPath) : Prop where
  | file {above : List String} {name : String} {held : List UInt8}
      (hway : tree.ComesTo p above name []) (hname : byteLength name ≤ nameLimit)
      (hfile : tree.find? (above ++ [name]) = some (.file held))
  | missing {above : List String} {name : String} (hway : tree.ComesTo p above name [])
      (hname : byteLength name ≤ nameLimit) (hnone : tree.find? (above ++ [name]) = none)

variable {p : NormalPath} {reason : FileRefusal}

/-- Either something is in the way of opening a file or nothing is. -/
theorem bars_or_clears (tree : FileTree) (p : NormalPath) :
    (∃ reason, tree.Bars p reason) ∨ tree.Clears p := by
  rcases Nat.lt_or_ge pathLimit (byteLength p.text) with hlong | hshort
  · exact .inl ⟨_, .longPath hlong⟩
  rcases LeadsDown.root.append_or p.names with hdown | ⟨above, name, below, hnames, hdown, hstops⟩
  · exact .inl ⟨_, .directory hshort hdown⟩
  have hway : tree.ComesTo p above name below := ⟨hshort, hnames, hdown⟩
  cases hstops with
  | long hlong => exact .inl ⟨_, .longName hway hlong⟩
  | missing hname hnone =>
    cases below with
    | nil => exact .inr (.missing hway hname hnone)
    | cons next below => exact .inl ⟨_, .missingDirectory hway hname hnone (List.cons_ne_nil _ _)⟩
  | file hname hfile =>
    cases below with
    | nil => exact .inr (.file hway hname hfile)
    | cons next below => exact .inl ⟨_, .throughFile hway hname hfile (List.cons_ne_nil _ _)⟩

/-- A path that is not too long is located by walking its names from the root. -/
theorem locate_of_short (hshort : byteLength p.text ≤ pathLimit) :
    tree.locate [] p = tree.walk [] .directory p.names := by
  rw [locate, if_neg (Nat.not_lt.mpr hshort), ite_self]

section Back

variable (hback : ".." ∉ p.names)
include hback

/-- A path that comes down to a name goes on with the step by this name. -/
theorem ComesTo.locate_eq (h : tree.ComesTo p above name below) :
    tree.locate [] p = tree.walk above .directory (name :: below) := by
  have habove : ".." ∉ above := fun hmem => hback (by simp [h.names_eq, hmem])
  rw [locate_of_short h.short, h.names_eq, h.way.walk_append habove]

/-- A path without ways back comes to none. -/
theorem ComesTo.ne_back (h : tree.ComesTo p above name below) : name ≠ ".." :=
  fun heq => hback (by simp [h.names_eq, heq])

/-- What is in the way of a file is what opening it is refused for. -/
theorem Bars.openAt_eq (h : tree.Bars p reason) : tree.openAt p = .error reason := by
  cases h with
  | longPath hlong => rw [openAt, locate, if_pos hlong]
  | longName hway hname =>
    rw [openAt, hway.locate_eq hback, walk_cons_of_error (step_of_longName (hway.ne_back hback) hname)]
  | @missingDirectory above below name hway hname hnone hbelow =>
    have hstep := step_of_missing (hway.ne_back hback) hname hnone
    -- the directory of the file is looked for as well, and it is missing for the same reason
    have hparent : tree.walk [] .directory p.names.dropLast = .error .notFound := by
      have habove : ".." ∉ above := fun hmem => hback (by simp [hway.names_eq, hmem])
      rw [hway.names_eq, List.dropLast_append_cons, List.dropLast_cons_of_ne_nil hbelow,
        hway.way.walk_append habove, walk_cons_of_error hstep]
    rw [openAt, hway.locate_eq hback, walk_cons_of_error hstep]
    simp only [hparent]
  | @throughFile above below name held hway hname hfile hbelow =>
    obtain ⟨next, rest, rfl⟩ := List.exists_cons_of_ne_nil hbelow
    rw [openAt, hway.locate_eq hback, walk_cons_of_ok (step_of_found (hway.ne_back hback) hname hfile),
      walk]
  | directory hshort hway => rw [openAt, locate_of_short hshort, hway.walk_eq hback]

/-- Where nothing is in the way, the file is opened. It was there before, or it is the only thing that is
new, in a directory that was there. -/
theorem Clears.openAt_eq (h : tree.Clears p) :
    (∃ held, tree.find? p.names = some (.file held) ∧ tree.openAt p = .ok (p.names, tree)) ∨
      tree.find? p.names = none ∧ (∃ above name, p.names = above ++ [name] ∧ tree.LeadsDown above) ∧
        tree.openAt p = .ok (p.names, tree.put p.names (.file [])) := by
  cases h with
  | @file above name held hway hname hfile =>
    have hnames := hway.names_eq
    refine .inl ⟨held, by rwa [hnames], ?_⟩
    rw [openAt, hway.locate_eq hback, walk_cons_of_ok (step_of_found (hway.ne_back hback) hname hfile),
      walk, hnames]
  | @missing above name hway hname hnone =>
    have hnames := hway.names_eq
    have habove : ".." ∉ above := fun hmem => hback (by simp [hnames, hmem])
    refine .inr ⟨by rwa [hnames], ⟨above, name, hnames, hway.way⟩, ?_⟩
    rw [openAt, hway.locate_eq hback,
      walk_cons_of_error (step_of_missing (hway.ne_back hback) hname hnone), hnames]
    simp only [List.dropLast_concat, hway.way.walk_eq habove, List.getLast?_concat]

/-- Opening is refused just for what is in the way. -/
theorem openAt_eq_error_iff : tree.openAt p = .error reason ↔ tree.Bars p reason := by
  refine ⟨fun h => ?_, fun h => h.openAt_eq hback⟩
  rcases tree.bars_or_clears p with ⟨other, hbars⟩ | hclears
  · have hother := hbars.openAt_eq hback
    rw [h] at hother
    obtain rfl : reason = other := Except.error.inj hother
    exact hbars
  · rcases hclears.openAt_eq hback with ⟨held, -, hopen⟩ | ⟨-, -, hopen⟩
    · rw [h] at hopen
      cases hopen
    · rw [h] at hopen
      cases hopen

end Back

/-- What keeps a path from being opened for appending: made absolute it is none, or something is in the
way. -/
inductive Unopenable (tree : FileTree) (workingDirectory : List String) (p : NormalPath) :
    FileError → Prop where
  | path {fault : PathFault} (hpath : (p.absolute workingDirectory).fault? = some fault) :
      Unopenable tree workingDirectory p (.unusable fault)
  | refused {reason : FileRefusal} (hpath : (p.absolute workingDirectory).fault? = none)
      (hbars : tree.Bars (p.absolute workingDirectory) reason) :
      Unopenable tree workingDirectory p (.refused reason (p.absolute workingDirectory).text)

variable {workingDirectory : List String} {q : NormalPath}

/-- A path is not opened just for what keeps it from being opened. -/
theorem openForAppend_eq_error_iff {e : FileError} :
    tree.openForAppend workingDirectory p = .error e ↔ tree.Unopenable workingDirectory p e := by
  have hback := not_mem_absolute workingDirectory p
  unfold openForAppend
  constructor
  · intro h
    simp only at h
    split at h
    next fault hpath =>
      cases h
      exact .path hpath
    next hpath =>
      split at h
      · cases h
      next reason hopen =>
        cases h
        exact .refused hpath ((openAt_eq_error_iff hback).mp hopen)
  · rintro (hpath | ⟨hpath, hbars⟩)
    · simp only [hpath]
    · simp only [hpath, hbars.openAt_eq hback]

/-! ## What is new -/

/-- The tree is the one before, or there is a new file, with nothing in it, in a directory that was
there. -/
theorem openForAppend_cases (h : tree.openForAppend workingDirectory p = .ok (place, t)) :
    t = tree ∨ tree.find? place = none ∧ (∃ above name, place = above ++ [name] ∧ tree.LeadsDown above) ∧
      t = tree.put place (.file []) := by
  have hback := not_mem_absolute workingDirectory p
  unfold openForAppend at h
  simp only at h
  split at h
  · cases h
  · split at h
    next opened hopened =>
      cases h
      rcases tree.bars_or_clears (p.absolute workingDirectory) with ⟨reason, hbars⟩ | hclears
      · rw [hbars.openAt_eq hback] at hopened
        cases hopened
      · rcases hclears.openAt_eq hback with ⟨held, -, hopen⟩ | ⟨hnone, habove, hopen⟩
        · rw [hopen] at hopened
          cases hopened
          exact .inl rfl
        · rw [hopen] at hopened
          cases hopened
          exact .inr ⟨hnone, habove, rfl⟩
    · cases h

/-- Where nothing stands, an entry that is put there is a new one. -/
theorem put_of_missing {place : List String} {entry : FileEntry} (hnone : tree.find? place = none) :
    tree.put place entry = ⟨tree.entries ++ [(place, entry)]⟩ := by
  have hany : ¬tree.entries.any (·.1 = place) = true := by
    intro hany
    obtain ⟨e, he, hkey⟩ := List.any_eq_true.mp hany
    have hsome : (tree.entries.find? (·.1 = place)).isSome := List.find?_isSome.mpr ⟨e, he, hkey⟩
    obtain ⟨found, hfound⟩ := Option.isSome_iff_exists.mp hsome
    cases place with
    | nil => cases hnone
    | cons name names =>
      rw [find?_cons, hfound] at hnone
      cases hnone
  rw [put, if_neg hany]

/-- Besides a new file in a directory that was there, what stands anywhere stood there before. -/
theorem find?_of_put_missing {entry : FileEntry} {held : List UInt8} {other : List String}
    (hnone : tree.find? (above ++ [name]) = none) (habove : tree.LeadsDown above)
    (hother : other ≠ above ++ [name])
    (h : (tree.put (above ++ [name]) (.file held)).find? other = some entry) :
    tree.find? other = some entry := by
  cases other with
  | nil => exact h
  | cons first rest =>
    rw [find?_cons, entry_put, if_neg hother] at h
    cases hfound : tree.entries.find? (·.1 = first :: rest) with
    | some found =>
      rw [hfound] at h
      rw [find?_cons, hfound]
      exact h
    | none =>
      rw [hfound, put_of_missing hnone, List.any_append] at h
      -- a directory is one for what stands below it, and that is not the new file alone
      by_cases hbelow : (tree.entries.any fun e => (first :: rest).isPrefixOf e.1) = true
      · rw [hbelow, Bool.true_or, if_pos rfl] at h
        rw [find?_cons, hfound]
        simp only [hbelow, if_true]
        exact h
      · simp only [Bool.not_eq_true] at hbelow
        by_cases hnew : (first :: rest) <+: above ++ [name]
        · have hdirectory : entry = .directory := by
            simpa [hbelow, List.isPrefixOf_iff_prefix.mpr hnew] using h.symm
          obtain ⟨more, hmore⟩ := (List.prefix_concat_iff.mp hnew).resolve_left hother
          rw [hdirectory]
          exact (habove.of_append hmore.symm).find?_eq
        · have hfalse : (first :: rest).isPrefixOf (above ++ [name]) = false := by
            rw [Bool.eq_false_iff]
            exact fun htrue => hnew (List.isPrefixOf_iff_prefix.mp htrue)
          simp [hbelow, hfalse] at h

/-- What stood anywhere stands there besides something new. -/
theorem find?_put_of_missing {new entry : FileEntry} {other : List String} (hnone : tree.find? place = none)
    (h : tree.find? other = some entry) : (tree.put place new).find? other = some entry := by
  have hother : other ≠ place := by
    rintro rfl
    rw [hnone] at h
    cases h
  cases other with
  | nil => exact h
  | cons first rest =>
    rw [find?_cons] at h
    rw [find?_cons, entry_put, if_neg hother]
    cases hfound : tree.entries.find? (·.1 = first :: rest) with
    | some found =>
      rw [hfound] at h
      exact h
    | none =>
      rw [hfound] at h
      simp only [Option.ite_none_right_eq_some] at h
      obtain ⟨hbelow, hdirectory⟩ := h
      rw [put_of_missing hnone, List.any_append, hbelow]
      exact hdirectory

/-- A step that succeeds still does once an entry is put in a place that had none. -/
theorem step_put_of_missing {new : FileEntry} {start : List String} {next : String}
    {stepped : List String × FileEntry} (hnone : tree.find? place = none)
    (h : tree.step start next = .ok stepped) : (tree.put place new).step start next = .ok stepped := by
  by_cases hback : next = ".."
  · rwa [step, if_pos hback] at h ⊢
  · obtain ⟨hplace, hfound⟩ := step_of_ok hback h
    rcases Nat.lt_or_ge nameLimit (byteLength next) with hlong | hshort
    · rw [step_of_longName hback hlong] at h
      cases h
    · rw [hplace] at hfound
      rw [step_of_found hback hshort (find?_put_of_missing hnone hfound), ← hplace]

/-- A way is the same besides something new. -/
theorem walk_put_of_missing {new entry : FileEntry} {start : List String}
    {reached : List String × FileEntry} (hnone : tree.find? place = none)
    (h : tree.walk start entry names = .ok reached) :
    (tree.put place new).walk start entry names = .ok reached := by
  induction names generalizing start entry with
  | nil => cases entry <;> exact h
  | cons next names ih =>
    cases entry with
    | file bytes => cases h
    | directory =>
      rw [walk] at h
      cases hstep : tree.step start next with
      | error reason =>
        rw [hstep] at h
        cases h
      | ok stepped =>
        rw [hstep] at h
        rw [walk_cons_of_ok (step_put_of_missing hnone hstep)]
        exact ih h

/-- With a new file in a directory that was there, a step led to the same before, unless it leads to the
file. -/
theorem step_of_put_missing {held : List UInt8} {next : String} {stepped : List String × FileEntry}
    (hnone : tree.find? (above ++ [name]) = none) (habove : tree.LeadsDown above)
    (h : (tree.put (above ++ [name]) (.file held)).step place next = .ok stepped) :
    tree.step place next = .ok stepped ∨ stepped = (above ++ [name], .file held) := by
  by_cases hback : next = ".."
  · exact .inl (by rw [step, if_pos hback] at h ⊢; exact h)
  · obtain ⟨hplace, hfound⟩ := step_of_ok hback h
    rcases Nat.lt_or_ge nameLimit (byteLength next) with hlong | hshort
    · rw [step_of_longName hback hlong] at h
      cases h
    · by_cases hnew : stepped.1 = above ++ [name]
      · have hheld : (tree.put (above ++ [name]) (.file held)).find? (above ++ [name]) =
            some (.file held) := by
          rw [← contents?_eq_some_iff, contents?_put (by simp), if_pos rfl]
        rw [hnew, hheld] at hfound
        exact .inr (Prod.ext hnew (Option.some.inj hfound).symm)
      · have hbefore := find?_of_put_missing hnone habove hnew hfound
        rw [hplace] at hbefore
        refine .inl ?_
        rw [step_of_found hback hshort hbefore, ← hplace]

/-- With a new file in a directory that was there, a way to another place was a way before. -/
theorem walk_of_put_missing {entry : FileEntry} {held : List UInt8} {reached : List String × FileEntry}
    (hnone : tree.find? (above ++ [name]) = none) (habove : tree.LeadsDown above)
    (hother : reached.1 ≠ above ++ [name])
    (h : (tree.put (above ++ [name]) (.file held)).walk place entry names = .ok reached) :
    tree.walk place entry names = .ok reached := by
  induction names generalizing place entry with
  | nil => cases entry <;> exact h
  | cons next names ih =>
    cases entry with
    | file bytes => cases h
    | directory =>
      rw [walk] at h
      cases hstep : (tree.put (above ++ [name]) (.file held)).step place next with
      | error reason =>
        rw [hstep] at h
        cases h
      | ok stepped =>
        rw [hstep] at h
        rcases step_of_put_missing hnone habove hstep with hsame | rfl
        · rw [walk_cons_of_ok hsame]
          exact ih h
        · -- there is no way on from the file, and it is not where this way ends
          cases names with
          | nil =>
            cases h
            exact absurd rfl hother
          | cons => cases h

/-- What could be read before can be read once a file was opened. -/
theorem read_openForAppend (h : tree.openForAppend workingDirectory p = .ok (place, t))
    (hread : tree.read workingDirectory q = .ok bytes) : t.read workingDirectory q = .ok bytes := by
  rcases openForAppend_cases h with rfl | ⟨hnone, -, rfl⟩
  · exact hread
  · obtain ⟨hfault, reached, hlocate⟩ := locate_of_read hread
    have hafter : (tree.put place (.file [])).locate workingDirectory q = .ok (reached, .file bytes) := by
      unfold locate at hlocate ⊢
      split at hlocate
      · cases hlocate
      next hshort =>
        rw [if_neg hshort]
        exact walk_put_of_missing hnone hlocate
    simp only [read, hfault, hafter]

/-- Besides the file that was opened, what can be read could be read before. -/
theorem read_of_openForAppend (h : tree.openForAppend workingDirectory p = .ok (place, t))
    (hread : t.read workingDirectory q = .ok bytes)
    (hother : ∀ held, t.locate workingDirectory q ≠ .ok (place, .file held)) :
    tree.read workingDirectory q = .ok bytes := by
  rcases openForAppend_cases h with rfl | ⟨hnone, ⟨above, name, rfl, habove⟩, rfl⟩
  · exact hread
  · obtain ⟨hfault, reached, hlocate⟩ := locate_of_read hread
    have hplace : reached ≠ above ++ [name] := by
      rintro rfl
      exact hother _ hlocate
    have hbefore : tree.locate workingDirectory q = .ok (reached, .file bytes) := by
      unfold locate at hlocate ⊢
      split at hlocate
      · cases hlocate
      next hshort =>
        rw [if_neg hshort]
        exact walk_of_put_missing hnone habove hplace hlocate
    simp only [read, hfault, hbefore]

end DocletPreflight.FileTree
