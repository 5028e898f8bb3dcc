/-!
# Loggers

Records come through loggers, which are known by dotted names. The log belongs to the root logger, and
what comes through another reaches it by way of the loggers above that one. Above a name stand the
beginnings that it has when it is cut at its points; of two points side by side the cut at the right one
passes over the left one. `Logger.reaches` says whether a logger leads to the root. One with a name of
ordinary parts always does.
-/

set_option autoImplicit false

namespace DocletPreflight

def rootLogger : String := "xmldoclet"

/-- The name of a logger; without a name it is the one above all others. -/
def loggerName : Option String → String
  | none => rootLogger
  | some name => if name = "" then rootLogger else rootLogger ++ "." ++ name

namespace Logger

/-- The names above a name, all of them written backwards, the nearest first. -/
def above : List Char → List (List Char)
  | '.' :: c :: rest => (c :: rest) :: above rest
  | _ :: rest => above rest
  | [] => []

/-- The names above a name, the nearest first. -/
def namesAbove (name : String) : List String :=
  (above name.toList.reverse).map fun s => String.ofList s.reverse

/-- The logger above another: the nearest that is in use. -/
def parent? (inUse : List String) (name : String) : Option String :=
  (namesAbove name).find? fun n => n = rootLogger || inUse.contains n

/-- Whether fewer than so many steps upwards lead from a logger to the root. -/
def reachesWithin (inUse : List String) : Nat → String → Bool
  | 0, _ => false
  | steps + 1, name =>
    name = rootLogger || (parent? inUse name).any (reachesWithin inUse steps)

/-- Whether the loggers above a logger lead to the root. Every step makes the name shorter. -/
def reaches (inUse : List String) (name : String) : Bool :=
  reachesWithin inUse (name.length + 1) name

end Logger

end DocletPreflight
