import DocletPreflight.Proofs.Text.Cuts
import DocletPreflight.Taglet.Loading

/-!
# What a name refers to

A taglet class is looked for in two ways. An entry point of the name comes first, and unless what it refers
to is nothing, it decides; otherwise the name is the path of an attribute of a module, the attribute being
what stands after the last dot. `Environment.Finds` says what is found in these ways and
`Environment.FailsToFind` says in how many ways nothing is, each with a failure of its own. The search answers
just so (`resolve_eq_ok_iff`, `resolve_eq_error_iff`).
-/

set_option autoImplicit false

namespace DocletPreflight

/-- A name is the path of an attribute of a module, neither of which is empty. The attribute has no dot. -/
structure IsPath (name moduleName member : String) : Prop where
  joined : name = moduleName ++ "." ++ member
  moduleName_ne : moduleName ≠ ""
  member_ne : member ≠ ""
  undotted : '.' ∉ member.toList

/-- A path is cut into the module and the attribute. -/
theorem cutLast_of_isPath {name moduleName member : String} (h : IsPath name moduleName member) :
    Text.cutLast '.' name.toList = some (moduleName.toList, member.toList) := by
  refine Text.cutLast_eq_some_iff.mpr ⟨?_, h.undotted⟩
  rw [h.joined]
  simp

/-- Neither part of a path is empty. -/
theorem IsPath.isEmpty_parts {name moduleName member : String} (h : IsPath name moduleName member) :
    (moduleName.toList.isEmpty || member.toList.isEmpty) = false := by
  have hmodule : moduleName.toList.isEmpty = false := by simpa using h.moduleName_ne
  have hmember : member.toList.isEmpty = false := by simpa using h.member_ne
  rw [hmodule, hmember, Bool.or_false]

/-- A name that is cut at its last dot into parts that are not empty is a path. -/
theorem isPath_of_cutLast {name : String} {before after : List Char}
    (h : Text.cutLast '.' name.toList = some (before, after)) (hbefore : before ≠ [])
    (hafter : after ≠ []) : IsPath name (String.ofList before) (String.ofList after) := by
  obtain ⟨hname, hdot⟩ := Text.cutLast_eq_some_iff.mp h
  refine ⟨?_, by simpa using hbefore, by simpa using hafter, by simpa using hdot⟩
  rw [← String.toList_inj, hname]
  simp

namespace Environment

/-- No entry point decides a name: there is none of the name, or what it refers to is nothing. -/
def LeftToPath (env : Environment) (name : String) : Prop :=
  ∀ entry, env.entryPoint? name = some entry → env.loadReference entry.value = .ok .nothing

/-- A name refers to an object. -/
inductive Finds (env : Environment) (name : String) : LoadedObject → Prop where
  | entryPoint {entry : EntryPoint} {object : LoadedObject}
      (hentry : env.entryPoint? name = some entry)
      (hload : env.loadReference entry.value = .ok object) (hsome : object ≠ .nothing) :
      Finds env name object
  | path {m a : String} {holder object : LoadedObject} (hleft : env.LeftToPath name)
      (hpath : IsPath name m a) (himport : env.importModule m = .ok holder)
      (hmember : env.memberOf holder a = .ok object) : Finds env name object

/-- A name refers to no object: its entry point cannot be loaded, or it is no path, or there is no such
module, or the module's code fails, or the module has no such attribute, or fails when it is asked for it. The
error of an entry point or of a module's code is quoted, and that of an attribute passes. -/
inductive FailsToFind (env : Environment) (name : String) : LoadFailure → Prop where
  | entryPoint {entry : EntryPoint} {e : ForeignError} (hentry : env.entryPoint? name = some entry)
      (hload : env.loadReference entry.value = .error e) :
      FailsToFind env name (.quoting (.entryPointFailed name) e)
  | noPath (hleft : env.LeftToPath name) (hpath : ∀ m a, ¬IsPath name m a) :
      FailsToFind env name (.reason (.notFound name))
  | noModule {m a : String} {e : ForeignError} (hleft : env.LeftToPath name) (hpath : IsPath name m a)
      (himport : env.importModule m = .error (.notFound e)) :
      FailsToFind env name (.reason (.notFound name))
  | moduleFails {m a : String} {e : ForeignError} (hleft : env.LeftToPath name)
      (hpath : IsPath name m a) (himport : env.importModule m = .error (.failed e)) :
      FailsToFind env name (.quoting (.importFailed m) e)
  | noAttribute {m a : String} {e : ForeignError} {holder : LoadedObject}
      (hleft : env.LeftToPath name) (hpath : IsPath name m a)
      (himport : env.importModule m = .ok holder)
      (hmember : env.memberOf holder a = .error (.missing e)) :
      FailsToFind env name (.reason (.notFound name))
  | attributeFails {m a : String} {e : ForeignError} {holder : LoadedObject}
      (hleft : env.LeftToPath name) (hpath : IsPath name m a)
      (himport : env.importModule m = .ok holder)
      (hmember : env.memberOf holder a = .error (.failed e)) :
      FailsToFind env name (.passing e)

variable {env : Environment} {name : String}

/-! ## Paths -/

section

variable {m a : String} {e : ForeignError} {holder object : LoadedObject} (h : IsPath name m a)
include h

/-- A path to a module that does not exist is reported as not found. -/
theorem resolveDotted_of_noModule (himport : env.importModule m = .error (.notFound e)) :
    env.resolveDotted name = .error (.reason (.notFound name)) := by
  simp only [resolveDotted, cutLast_of_isPath h, h.isEmpty_parts, Bool.false_eq_true, if_false,
    String.ofList_toList, himport]

/-- A module that fails is reported by the text of its error. -/
theorem resolveDotted_of_moduleFails (himport : env.importModule m = .error (.failed e)) :
    env.resolveDotted name = .error (.quoting (.importFailed m) e) := by
  simp only [resolveDotted, cutLast_of_isPath h, h.isEmpty_parts, Bool.false_eq_true, if_false,
    String.ofList_toList, himport]

/-- A path to an attribute that does not exist is reported as not found. -/
theorem resolveDotted_of_noAttribute (himport : env.importModule m = .ok holder)
    (hmember : env.memberOf holder a = .error (.missing e)) :
    env.resolveDotted name = .error (.reason (.notFound name)) := by
  simp only [resolveDotted, cutLast_of_isPath h, h.isEmpty_parts, Bool.false_eq_true, if_false,
    String.ofList_toList, himport, hmember]

/-- What asking for an attribute raises is not taken up. -/
theorem resolveDotted_of_attributeFails (himport : env.importModule m = .ok holder)
    (hmember : env.memberOf holder a = .error (.failed e)) :
    env.resolveDotted name = .error (.passing e) := by
  simp only [resolveDotted, cutLast_of_isPath h, h.isEmpty_parts, Bool.false_eq_true, if_false,
    String.ofList_toList, himport, hmember]

/-- A path refers to the attribute of its module. -/
theorem resolveDotted_of_member (himport : env.importModule m = .ok holder)
    (hmember : env.memberOf holder a = .ok object) : env.resolveDotted name = .ok object := by
  simp only [resolveDotted, cutLast_of_isPath h, h.isEmpty_parts, Bool.false_eq_true, if_false,
    String.ofList_toList, himport, hmember]

end

/-- A name that is no path is reported as not found. -/
theorem resolveDotted_of_not_isPath (h : ∀ m a, ¬IsPath name m a) :
    env.resolveDotted name = .error (.reason (.notFound name)) := by
  cases hcut : Text.cutLast '.' name.toList with
  | none => simp only [resolveDotted, hcut]
  | some parts =>
    obtain ⟨before, after⟩ := parts
    have hempty : (before.isEmpty || after.isEmpty) = true := by
      by_contra hne
      simp only [Bool.or_eq_true, List.isEmpty_iff, not_or] at hne
      exact h _ _ (isPath_of_cutLast hcut hne.1 hne.2)
    simp only [resolveDotted, hcut, hempty, if_true]

/-- What a name refers to when it is left to its path, case by case. -/
theorem resolveDotted_cases (hleft : env.LeftToPath name) :
    (∃ object, env.resolveDotted name = .ok object ∧ env.Finds name object) ∨
      ∃ failure, env.resolveDotted name = .error failure ∧ env.FailsToFind name failure := by
  by_cases hpath : ∃ m a, IsPath name m a
  · obtain ⟨m, a, hpath⟩ := hpath
    cases himport : env.importModule m with
    | error failure =>
      cases failure with
      | notFound e =>
        exact .inr ⟨_, resolveDotted_of_noModule hpath himport, .noModule hleft hpath himport⟩
      | failed e =>
        exact .inr ⟨_, resolveDotted_of_moduleFails hpath himport, .moduleFails hleft hpath himport⟩
    | ok holder =>
      cases hmember : env.memberOf holder a with
      | error failure =>
        cases failure with
        | missing e =>
          exact .inr ⟨_, resolveDotted_of_noAttribute hpath himport hmember,
            .noAttribute hleft hpath himport hmember⟩
        | failed e =>
          exact .inr ⟨_, resolveDotted_of_attributeFails hpath himport hmember,
            .attributeFails hleft hpath himport hmember⟩
      | ok object =>
        exact .inl ⟨_, resolveDotted_of_member hpath himport hmember,
          .path hleft hpath himport hmember⟩
  · have hnone : ∀ m a, ¬IsPath name m a := fun m a h => hpath ⟨m, a, h⟩
    exact .inr ⟨_, resolveDotted_of_not_isPath hnone, .noPath hleft hnone⟩

/-! ## Entry points and paths -/

/-- A name that no entry point decides is a path. -/
theorem resolve_of_leftToPath (h : env.LeftToPath name) :
    env.resolve name = env.resolveDotted name := by
  cases hentry : env.entryPoint? name with
  | none => simp only [resolve, hentry]
  | some entry => simp only [resolve, hentry, h entry hentry]

/-- An entry point decides its name by what it refers to, unless that is nothing. -/
theorem resolve_of_entryPoint {entry : EntryPoint} {object : LoadedObject}
    (hentry : env.entryPoint? name = some entry)
    (hload : env.loadReference entry.value = .ok object) (hsome : object ≠ .nothing) :
    env.resolve name = .ok object := by
  cases object with
  | nothing => exact absurd rfl hsome
  | tagletClass c => simp only [resolve, hentry, hload]
  | other label => simp only [resolve, hentry, hload]
  | untestable label e => simp only [resolve, hentry, hload]

/-- The search finds an object, or has a reason not to. -/
theorem resolve_cases (env : Environment) (name : String) :
    (∃ object, env.resolve name = .ok object ∧ env.Finds name object) ∨
      ∃ failure, env.resolve name = .error failure ∧ env.FailsToFind name failure := by
  cases hentry : env.entryPoint? name with
  | none =>
    have hleft : env.LeftToPath name := by
      intro entry h
      rw [hentry] at h
      cases h
    rw [resolve_of_leftToPath hleft]
    exact resolveDotted_cases hleft
  | some entry =>
    cases hload : env.loadReference entry.value with
    | error e => exact .inr ⟨_, by simp only [resolve, hentry, hload], .entryPoint hentry hload⟩
    | ok object =>
      by_cases hnothing : object = .nothing
      · have hleft : env.LeftToPath name := by
          intro other h
          rw [hentry] at h
          cases h
          rw [hload, hnothing]
        rw [resolve_of_leftToPath hleft]
        exact resolveDotted_cases hleft
      · exact .inl ⟨object, resolve_of_entryPoint hentry hload hnothing,
          .entryPoint hentry hload hnothing⟩

/-- What a name refers to is what it is resolved to. -/
theorem Finds.resolve_eq {object : LoadedObject} (h : env.Finds name object) :
    env.resolve name = .ok object := by
  cases h with
  | entryPoint hentry hload hsome => exact resolve_of_entryPoint hentry hload hsome
  | path hleft hpath himport hmember =>
    rw [resolve_of_leftToPath hleft, resolveDotted_of_member hpath himport hmember]

/-- Where no object is found for a name, resolving it fails for that reason. -/
theorem FailsToFind.resolve_eq {failure : LoadFailure} (h : env.FailsToFind name failure) :
    env.resolve name = .error failure := by
  cases h with
  | entryPoint hentry hload => simp only [resolve, hentry, hload]
  | noPath hleft hpath => rw [resolve_of_leftToPath hleft, resolveDotted_of_not_isPath hpath]
  | noModule hleft hpath himport =>
    rw [resolve_of_leftToPath hleft, resolveDotted_of_noModule hpath himport]
  | moduleFails hleft hpath himport =>
    rw [resolve_of_leftToPath hleft, resolveDotted_of_moduleFails hpath himport]
  | noAttribute hleft hpath himport hmember =>
    rw [resolve_of_leftToPath hleft, resolveDotted_of_noAttribute hpath himport hmember]
  | attributeFails hleft hpath himport hmember =>
    rw [resolve_of_leftToPath hleft, resolveDotted_of_attributeFails hpath himport hmember]

/-- The search answers what the name refers to. -/
theorem resolve_eq_ok_iff {object : LoadedObject} :
    env.resolve name = .ok object ↔ env.Finds name object := by
  refine ⟨fun h => ?_, Finds.resolve_eq⟩
  rcases env.resolve_cases name with ⟨found, hfound, hfinds⟩ | ⟨failure, hfailure, -⟩
  · cases h.symm.trans hfound
    exact hfinds
  · cases h.symm.trans hfailure

/-- The search fails for the reason that the name refers to nothing. -/
theorem resolve_eq_error_iff {failure : LoadFailure} :
    env.resolve name = .error failure ↔ env.FailsToFind name failure := by
  refine ⟨fun h => ?_, FailsToFind.resolve_eq⟩
  rcases env.resolve_cases name with ⟨found, hfound, -⟩ | ⟨failure', hfailure, hfails⟩
  · cases h.symm.trans hfound
  · cases h.symm.trans hfailure
    exact hfails

end Environment

end DocletPreflight
