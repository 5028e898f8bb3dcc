import DocletPreflight.Path
import DocletPreflight.Text.Quoted
import DocletPreflight.Text.Utf8

/-!
# File trees

Two files take part in a run: the class listing that is read and the log file that is appended to.
`FileTree.read` and `FileTree.openForAppend` follow a path name by name and say which of the ways in
which the operating system can refuse it applies.
-/

set_option autoImplicit false

namespace DocletPreflight

/-- What stands at a place of the tree. -/
inductive FileEntry where
  | file (bytes : List UInt8)
  | directory
  deriving DecidableEq, Repr

/-- The entries of a tree by the names that lead to them from its root. A directory also exists when
something stands below it. -/
structure FileTree where
  entries : List (List String × FileEntry)
  deriving DecidableEq, Repr

/-- Why a path cannot be opened. -/
inductive FileRefusal where
  | notFound
  | notDirectory
  | isDirectory
  | nameTooLong
  deriving DecidableEq, Repr

/-- Why a path is none: half of a surrogate pair stands for no byte, or there is a null character. -/
inductive PathFault where
  | unencodable (u : Text.Unencodable)
  | embeddedNul
  deriving DecidableEq, Repr

/-- A refusal together with the path as it is shown, or the fault of a path that cannot be tried. -/
inductive FileError where
  | refused (reason : FileRefusal) (path : String)
  | unusable (fault : PathFault)
  deriving DecidableEq, Repr

/-- The number and the words of the operating system for a refusal. -/
def FileRefusal.message : FileRefusal → String
  | .notFound => "[Errno 2] No such file or directory"
  | .notDirectory => "[Errno 20] Not a directory"
  | .isDirectory => "[Errno 21] Is a directory"
  | .nameTooLong => "[Errno 36] File name too long"

def PathFault.message : PathFault → String
  | .unencodable u => u.message
  | .embeddedNul => "embedded null byte"

def FileError.message : FileError → String
  | .refused reason path => reason.message ++ ": " ++ Text.quoted path
  | .unusable fault => fault.message

/-- Whether a code point stands for a byte in the name of a file that is not UTF-8. -/
def standsForByte (code : Nat) : Bool := 0xDC80 ≤ code && code ≤ 0xDCFF

/-- The number of bytes of a path or a name in it. -/
def byteLength (text : String) : Nat :=
  (Text.codes text).foldl
    (fun length code => length + if standsForByte code then 1 else (Char.ofNat code).utf8Size) 0

def NormalPath.fault? (p : NormalPath) : Option PathFault :=
  match Text.unencodable? standsForByte (Text.codes p.text) with
  | some u => some (.unencodable u)
  | none => if p.text.toList.contains '\x00' then some .embeddedNul else none

namespace FileTree

def empty : FileTree := ⟨[]⟩

def find? (tree : FileTree) (place : List String) : Option FileEntry :=
  match place with
  | [] => some .directory
  | _ =>
    match tree.entries.find? (·.1 = place) with
    | some entry => some entry.2
    | none => if tree.entries.any fun e => place.isPrefixOf e.1 then some .directory else none

def contents? (tree : FileTree) (place : List String) : Option (List UInt8) :=
  match tree.find? place with
  | some (.file bytes) => some bytes
  | _ => none

/-- Puts an entry at a place, over the one that stands there. -/
def put (tree : FileTree) (place : List String) (entry : FileEntry) : FileTree :=
  if tree.entries.any (·.1 = place) then
    ⟨tree.entries.map fun e => if e.1 = place then (place, entry) else e⟩
  else ⟨tree.entries ++ [(place, entry)]⟩

/-- The longest name that a directory holds, in bytes. -/
def nameLimit : Nat := 255

/-- The longest path that is followed, in bytes. -/
def pathLimit : Nat := 4095

/-- One step from a directory by a name. The directory above the root is the root. -/
def step (tree : FileTree) (place : List String) (name : String) :
    Except FileRefusal (List String × FileEntry) :=
  if name = ".." then .ok (place.dropLast, .directory)
  else if nameLimit < byteLength name then .error .nameTooLong
  else
    match tree.find? (place ++ [name]) with
    | some entry => .ok (place ++ [name], entry)
    | none => .error .notFound

/-- Follows names from a place that holds an entry; only a directory can be left. -/
def walk (tree : FileTree) : List String → FileEntry → List String →
    Except FileRefusal (List String × FileEntry)
  | place, entry, [] => .ok (place, entry)
  | place, .directory, name :: rest =>
    match tree.step place name with
    | .ok (next, entry) => tree.walk next entry rest
    | .error reason => .error reason
  | _, .file _, _ :: _ => .error .notDirectory

/-- The place that a path leads to, with what stands there. -/
def locate (tree : FileTree) (workingDirectory : List String) (p : NormalPath) :
    Except FileRefusal (List String × FileEntry) :=
  if pathLimit < byteLength p.text then .error .nameTooLong
  else tree.walk (if p.root = .relative then workingDirectory else []) .directory p.names

def read (tree : FileTree) (workingDirectory : List String) (p : NormalPath) :
    Except FileError (List UInt8) :=
  match p.fault? with
  | some fault => .error (.unusable fault)
  | none =>
    match tree.locate workingDirectory p with
    | .ok (_, .file bytes) => .ok bytes
    | .ok (_, .directory) => .error (.refused .isDirectory p.text)
    | .error reason => .error (.refused reason p.text)

/-- Opens the file at an absolute path for appending, and creates it when its directory exists and it
does not. The answer is the place of the file. -/
def openAt (tree : FileTree) (p : NormalPath) : Except FileRefusal (List String × FileTree) :=
  match tree.locate [] p with
  | .ok (place, .file _) => .ok (place, tree)
  | .ok (_, .directory) => .error .isDirectory
  | .error .notFound =>
    match tree.walk [] .directory p.names.dropLast, p.names.getLast? with
    | .ok (place, .directory), some name =>
      .ok (place ++ [name], tree.put (place ++ [name]) (.file []))
    | .ok _, _ => .error .notFound
    | .error reason, _ => .error reason
  | .error reason => .error reason

/-- Opens a file for appending. The path is made absolute first, so a `..` takes back the name before
it whatever that names. -/
def openForAppend (tree : FileTree) (workingDirectory : List String) (p : NormalPath) :
    Except FileError (List String × FileTree) :=
  let target := p.absolute workingDirectory
  match target.fault? with
  | some fault => .error (.unusable fault)
  | none =>
    match tree.openAt target with
    | .ok opened => .ok opened
    | .error reason => .error (.refused reason target.text)

def append (tree : FileTree) (place : List String) (text : String) : FileTree :=
  match tree.find? place with
  | some (.file bytes) => tree.put place (.file (bytes ++ Text.encodeUtf8 text))
  | _ => tree

end FileTree

end DocletPreflight
