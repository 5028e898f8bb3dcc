import DocletPreflight.Text.Cut

/-!
# Paths in normal form

A path is its root and the names below it. Repeated slashes, `.` components and a trailing slash
carry no meaning and are gone after reading; `..` is kept, since what it names depends on the file
tree. The empty path is the current directory.
-/

set_option autoImplicit false

namespace DocletPreflight

/-- Where a path starts: at the current directory, at `/`, or at the separate root `//`. -/
inductive PathRoot where
  | relative
  | slash
  | doubleSlash
  deriving DecidableEq, Repr

structure NormalPath where
  root : PathRoot
  names : List String
  deriving DecidableEq, Repr

namespace NormalPath

/-- The root is `//` after exactly two slashes and `/` after any other positive number. -/
def rootOf (s : List Char) : PathRoot :=
  match (s.takeWhile (· = '/')).length with
  | 0 => .relative
  | 2 => .doubleSlash
  | _ => .slash

def parse (text : String) : NormalPath where
  root := rootOf text.toList
  names := (Text.split '/' text).filter fun name => name ≠ "" && name ≠ "."

def rootText : PathRoot → String
  | .relative => ""
  | .slash => "/"
  | .doubleSlash => "//"

/-- The text of a path; the current directory is written `.`. -/
def text (p : NormalPath) : String :=
  if p.root = .relative && p.names.isEmpty then "."
  else rootText p.root ++ String.intercalate "/" p.names

/-- The last name of a path, empty when there is none. -/
def lastName (p : NormalPath) : String :=
  p.names.getLast?.getD ""

/-- The names that remain when every `..` takes back the name before it. -/
def collapse (names : List String) : List String :=
  (names.foldl (fun kept name => if name = ".." then kept.drop 1 else name :: kept) []).reverse

/-- A path seen from the root, with every `..` taken back; the names of the working directory come
before those of a relative path. -/
def absolute (workingDirectory : List String) (p : NormalPath) : NormalPath :=
  match p.root with
  | .relative => ⟨.slash, collapse (workingDirectory ++ p.names)⟩
  | root => ⟨root, collapse p.names⟩

end NormalPath

end DocletPreflight
