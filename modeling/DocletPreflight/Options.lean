/-!
# Doclet options

The options of a doclet arrive as an `OptionMatrix`, a list of rows that each hold the name of an
option and then its value. `OptionMatrix.has`, `first?` and `values` read it, and `group` makes it
from a plain argument list: every group of tokens starts with a flag and has as many tokens as the
flag asks for, except that the end of the list may cut the last group short.
-/

set_option autoImplicit false

namespace DocletPreflight

/-- The options that are known. -/
inductive Flag where
  | directory
  | encoding
  | multiple
  | fileName
  | implements
  | extends
  | annotated
  | tag
  | taglet
  | subfolders
  deriving DecidableEq, Repr

namespace Flag

def all : List Flag :=
  [directory, encoding, multiple, fileName, implements, .extends, annotated, tag, taglet,
   subfolders]

/-- The name of a flag as it is written. -/
def text : Flag → String
  | directory => "-d"
  | encoding => "-docencoding"
  | multiple => "-multiple"
  | fileName => "-filename"
  | implements => "-implements"
  | .extends => "-extends"
  | annotated => "-annotated"
  | tag => "-tag"
  | taglet => "-taglet"
  | subfolders => "-subfolders"

def ofText? (name : String) : Option Flag := all.find? (·.text = name)

def takesValue : Flag → Bool
  | multiple => false
  | subfolders => false
  | _ => true

def length (f : Flag) : Nat := if f.takesValue then 2 else 1

/-- The list of flags leaves none out. -/
theorem mem_all (f : Flag) : f ∈ all := by cases f <;> decide

/-- A flag is found by the text that it is written with. -/
theorem ofText?_text (f : Flag) : ofText? f.text = some f := by cases f <;> decide

end Flag

/-- The number of tokens that an option takes, its name included; none when it is unknown. -/
def optionLength (name : String) : Nat := (Flag.ofText? name).elim 0 Flag.length

/-- Rows of an option name and what follows it. A row may be empty. -/
abbrev OptionMatrix := List (List String)

namespace OptionMatrix

def named (name : String) (row : List String) : Bool := row.head? = some name

/-- The value in a row: its second token. -/
def rowValue? (row : List String) : Option String := row[1]?

def has (m : OptionMatrix) (name : String) : Bool := m.any (named name)

/-- The value of the first row of a name. Later rows of the name do not matter, even when the first
has no value. -/
def first? (m : OptionMatrix) (name : String) : Option String :=
  (m.find? (named name)).bind rowValue?

/-- The values of all rows of a name, in order; rows without a value are passed over. -/
def values (m : OptionMatrix) (name : String) : List String :=
  (m.filter (named name)).filterMap rowValue?

end OptionMatrix

/-- A token that stands where an option was due and is none. -/
structure UnknownFlag where
  name : String
  deriving DecidableEq, Repr

/-- The text of the error. -/
def UnknownFlag.message (e : UnknownFlag) : String := "Invalid flag: " ++ e.name

namespace OptionMatrix

/-- The rows of an argument list. A value that the end of the list cuts off leaves a short row. -/
def group : List String → Except UnknownFlag OptionMatrix
  | [] => .ok []
  | name :: rest =>
    match Flag.ofText? name with
    | none => .error ⟨name⟩
    | some flag =>
      if flag.takesValue then
        match rest with
        | [] => .ok [[name]]
        | value :: rest => (group rest).map ([name, value] :: ·)
      else (group rest).map ([name] :: ·)

end OptionMatrix

end DocletPreflight
