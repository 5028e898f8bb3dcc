import DocletPreflight.Encoding.Name
import DocletPreflight.Proofs.Command.Stages
import DocletPreflight.Proofs.Configuration.Shape
import DocletPreflight.Proofs.Listing.Selection
import Mathlib.Control.Monad.Basic
import Mathlib.Data.Option.Basic

/-!
# What the filter command prints

A run goes through the tool's own arguments, the log, the doclet options and their check before it does
what the command says (`run_eq_conclude`). A run of the filter command that comes so far prints, line by
line and in the order of the listing, the names of the entries that satisfy the filter of the doclet
options by what is written in them (`run_filter_prints`).
-/

set_option autoImplicit false

namespace DocletPreflight

open Yaml (Value)
open Listing (IsCalled Satisfies entries)

/-- A computation that answers, and whose answer passes a test. -/
theorem exists_ok_of_any {α ε : Type} {x : Except ε α} (p : α → Bool)
    (h : x.toOption.any p = true) : ∃ a, x = .ok a ∧ p a = true := by
  cases x with
  | error e => cases h
  | ok a => exact ⟨a, rfl, h⟩

/-- A run with a request, a log and doclet options comes to its conclusion in the session that it leaves.
-/
theorem run_eq_conclude (env : Environment) (lookup : Encoding.Lookup) {arguments : List String}
    {s : Session} {request : Request} {m : OptionMatrix}
    (hparse : Request.parse (splitDocletArguments arguments).1 = .ok request)
    (hlog : (request.configureLog s).1 = .ok ())
    (hgroup : OptionMatrix.group (splitDocletArguments arguments).2 = .ok m) :
    ∃ console, (run env lookup arguments s).1 =
      conclude request.command (build env lookup m) console (run env lookup arguments s).2 := by
  refine ⟨(request.checked env lookup m s).1, ?_⟩
  rw [run_of_group hparse hlog env lookup hgroup]

/-- A run that reads its listing and accepts it prints the names that the configuration accepts. -/
theorem conclude_filter {built : BuildResult} {c : Configuration} {console : String} {s : Session}
    {p : NormalPath} {v : Value} {l : Listing} (hbuild : built.configuration = .ok (some c))
    (hread : Listing.readValue s.files s.workingDirectory p = .ok v)
    (haccept : Listing.ofValue p.lastName v = .ok l) :
    conclude (.filter (.path p)) built console s =
      ⟨.exit 0, lines (c.acceptedNames l), console⟩ := by
  have hlisting : Listing.read s.files s.workingDirectory p = .ok l := by
    rw [Listing.read, hread]
    exact haccept
  simp only [conclude, hbuild, Command.perform, hlisting]

/-- A run of the filter command that has a configuration and a listing prints the names of just those
entries that satisfy the filter of its doclet options by what is written in them, in the order of the
listing and each of them once. When the options ask for nothing, it prints the names of all entries. The
listing is the one that is there once the log is written. -/
theorem run_filter_prints (env : Environment) (lookup : Encoding.Lookup) (arguments : List String)
    (s : Session) {request : Request} {p : NormalPath} {m : OptionMatrix} {c : Configuration}
    {v : Value} {l : Listing}
    (hparse : Request.parse (splitDocletArguments arguments).1 = .ok request)
    (hcommand : request.command = .filter (.path p))
    (hlog : (request.configureLog s).1 = .ok ())
    (hgroup : OptionMatrix.group (splitDocletArguments arguments).2 = .ok m)
    (hbuild : (build env lookup m).configuration = .ok (some c))
    (hread : Listing.readValue (run env lookup arguments s).2.files
      (run env lookup arguments s).2.workingDirectory p = .ok v)
    (haccept : Listing.ofValue p.lastName v = .ok l) :
    ∃ names,
      (run env lookup arguments s).1.ending = .exit 0 ∧
      (run env lookup arguments s).1.output = lines names ∧
      List.Forall₂ IsCalled ((entries v).filter fun e => Satisfies m.wantedFilter e) names ∧
      names.Nodup ∧
      (m.wantedFilter.isActive = false → List.Forall₂ IsCalled (entries v) names) := by
  obtain ⟨console, hrun⟩ := run_eq_conclude env lookup hparse hlog hgroup
  rw [hcommand, conclude_filter hbuild hread haccept] at hrun
  obtain ⟨hcalled, hnodup⟩ := Listing.forall₂_acceptedNames haccept c
  rw [classFilter_of_build hbuild] at hcalled
  refine ⟨c.acceptedNames l, by rw [hrun], by rw [hrun], hcalled, hnodup, ?_⟩
  intro hinactive
  have hall : (entries v).filter (fun e => Satisfies m.wantedFilter e) = entries v := by
    rw [List.filter_eq_self]
    intro e _
    exact decide_eq_true (Listing.satisfies_of_not_isActive hinactive e)
  rwa [hall] at hcalled

/-- A tree with one listing, of a class and the class that it extends. -/
def childAndBaseSession : Session :=
  .start [] "" (FileTree.empty.put ["m.yml"]
    (.file (Text.encodeUtf8 "classes: [{name: A, extends: B}, {name: B}]")))

/-- The arguments that ask for the classes that extend `B`. -/
def extendingArguments : List String :=
  ["filter", "--model", "m.yml", "--", "-d", "out", "-extends", "B"]

/-- The names, as they are written, of the entries of a value that satisfy a filter. -/
def selectedNames (f : ClassFilter) (v : Value) : List (Option String) :=
  ((entries v).filter fun e => Satisfies f e).map fun e => (e.field "name").written?

/-- Only the class that extends `B` is printed, and not `B` itself. -/
theorem extendingArguments_print :
    (run .bare Encoding.lookup extendingArguments childAndBaseSession).1.ending = .exit 0 ∧
      (run .bare Encoding.lookup extendingArguments childAndBaseSession).1.output = "A\n" := by
  obtain ⟨v, hread, hv⟩ := exists_ok_of_any
    (x := Listing.readValue
      (run .bare Encoding.lookup extendingArguments childAndBaseSession).2.files
      (run .bare Encoding.lookup extendingArguments childAndBaseSession).2.workingDirectory
      (.parse "m.yml"))
    (fun v => selectedNames ⟨some "B", none, none⟩ v = [some "A"] &&
      (Listing.ofValue "m.yml" v).toOption.any fun _ => true) (by decide +kernel)
  obtain ⟨hselects, haccepts⟩ := Bool.and_eq_true_iff.mp hv
  obtain ⟨l, haccept, -⟩ := exists_ok_of_any (fun _ => true) haccepts
  have hparse : Request.parse (splitDocletArguments extendingArguments).1 =
      .ok ⟨false, none, .filter (.path (.parse "m.yml"))⟩ := by decide +kernel
  have hgroup : OptionMatrix.group (splitDocletArguments extendingArguments).2 =
      .ok [["-d", "out"], ["-extends", "B"]] := by decide +kernel
  have hbuild : (build .bare Encoding.lookup [["-d", "out"], ["-extends", "B"]]).configuration =
      .ok (some (.make (.parse "out") false false "utf-8" "xmldoclet.xml" ⟨some "B", none, none⟩
        .standard)) := rfl
  obtain ⟨names, hending, houtput, hcalled, -, -⟩ :=
    run_filter_prints .bare Encoding.lookup extendingArguments childAndBaseSession hparse rfl rfl
      hgroup hbuild hread haccept
  have hnames : names.map some = ["A"].map some := by
    rw [← Listing.map_written_of_called hcalled]
    exact of_decide_eq_true hselects
  obtain rfl := List.map_injective_iff.mpr (Option.some_injective String) hnames
  exact ⟨hending, houtput⟩

end DocletPreflight
