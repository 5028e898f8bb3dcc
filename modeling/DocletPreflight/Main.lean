import DocletPreflight.Command.Run
import Std.Time.Format

/-!
# The program

The program looks at the part of the file system that its arguments speak of, hands it to `run`, and
carries out what comes back: the texts for the two standard streams, the lines for the log file and
the exit code.
-/

set_option autoImplicit false

namespace DocletPreflight

/-- The paths that a run may open. -/
def Request.paths (request : Request) : List NormalPath :=
  (request.logFile.toList ++
    match request.command with
    | .check => []
    | .filter model => [model]).filterMap GivenPath.path?

/-- Every place that is passed on the way along a path, and its end. -/
def NormalPath.stations (workingDirectory : List String) (p : NormalPath) : List (List String) :=
  (List.range (p.names.length + 1)).map fun n =>
    (NormalPath.absolute workingDirectory { p with names := p.names.take n }).names

def placePath (place : List String) : String := Text.toPlain (NormalPath.mk .slash place).text

/-- What stands at a place of the file system, if it can be read. -/
def entryAt? (place : List String) : IO (Option FileEntry) := do
  try
    let path ← IO.FS.realPath (placePath place)
    if ← path.isDir then return some .directory
    else return some (.file (← IO.FS.readBinFile path).toList)
  catch _ => return none

/-- The part of the file system that arguments speak of. -/
def surroundings (workingDirectory : List String) (arguments : List String) : IO FileTree := do
  match Request.parse (splitDocletArguments arguments).1 with
  | .error _ => return .empty
  | .ok request =>
    let mut tree := FileTree.empty
    for place in request.paths.flatMap (NormalPath.stations workingDirectory) do
      if let some entry ← entryAt? place then tree := tree.put place entry
    return tree

def LogSettings.places (log : LogSettings) : List (List String) :=
  log.handlers.filterMap fun h => match h.target with | .console => none | .file place => some place

/-- The bytes of a file of a tree, none if there is no such file. -/
def FileTree.bytesAt (tree : FileTree) (place : List String) : List UInt8 :=
  (tree.contents? place).getD []

def saveLogs (before after : Session) : IO Unit := do
  for place in after.log.places do
    let gained := (after.files.bytesAt place).drop (before.files.bytesAt place).length
    IO.FS.withFile (placePath place) .append fun handle => handle.write ⟨gained.toArray⟩

def clockText : IO String := do
  return (← Std.Time.PlainDateTime.now).format "uuuu-MM-dd HH:mm:ss,SSS"

end DocletPreflight

open DocletPreflight in
/-- Runs the tool in the current directory, where no taglet class can be loaded. -/
def main (arguments : List String) : IO UInt32 := do
  let arguments := arguments.map Text.ofPlain
  let workingDirectory := (NormalPath.parse (Text.ofPlain (← IO.currentDir).toString)).names
  let files ← surroundings workingDirectory arguments
  let before := Session.start workingDirectory (← clockText) files
  let (result, after) := run .bare Encoding.lookup arguments before
  saveLogs before after
  IO.print (Text.toPlain result.output)
  IO.eprint (Text.toPlain result.console)
  match result.ending with
  | .exit code => return code.toUInt32
  | .crash fault =>
    IO.eprintln (Text.toPlain fault.message)
    return 1
