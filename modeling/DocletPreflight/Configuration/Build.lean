import DocletPreflight.Configuration
import DocletPreflight.Diagnostic
import DocletPreflight.Encoding.Name
import DocletPreflight.Options
import DocletPreflight.Taglet.Loading

/-!
# From options to a configuration

`build` checks an option matrix. Two things are fatal: no usable output directory, and an encoding
that is asked for and cannot be had. Everything else that is wrong is reported and passed over, unless the
lookup of the encoding or the loading of the taglet classes does not come to an end (`BuildFault`). Each
step of the check answers a value and the trace of what it reported, and `build` strings the steps
together in a fixed order that does not depend on the order of the rows.
-/

set_option autoImplicit false

namespace DocletPreflight

namespace Build

/-- The output directory. It must be given, and not be empty. -/
def directory (m : OptionMatrix) : Option NormalPath × Trace :=
  if m.has Flag.directory.text then
    match m.first? Flag.directory.text with
    | none | some "" =>
      (none, .reporting
        [.error "Missing value for <directory>, usage:",
         .error "-d <directory> Destination directory for output files"])
    | some text =>
      (some (NormalPath.parse text), .reporting [.notice ("Output directory: " ++ text)])
  else (none, .reporting [.error "Output directory not specified; use -d <directory>"])

/-- The output encoding, by its canonical name. An encoding that is asked for must be known; a fault
of the lookup other than an unknown name is passed on. -/
def encoding (lookup : Encoding.Lookup) (m : OptionMatrix) :
    Except Encoding.Fault (Option String) × Trace :=
  if m.has Flag.encoding.text then
    match m.first? Flag.encoding.text with
    | none | some "" =>
      (.ok none, .reporting
        [.error "Missing value for <name>, usage:",
         .error "-docencoding <name> \t Output encoding name"])
    | some name =>
      match lookup name with
      | .ok canonical => (.ok (some canonical), .reporting [.notice ("Output encoding: " ++ canonical)])
      | .error .unknown => (.ok none, .reporting [.error ("Unsupported output encoding: " ++ name)])
      | .error fault => (.error fault, [])
  else (.ok (some Configuration.defaultEncoding), [])

/-- The name of the output file, which only counts when there is a single one. -/
def fileName (m : OptionMatrix) : String × Trace :=
  let ignored : String × Trace :=
    (Configuration.defaultFileName, .reporting [.warning "'-filename' option ignored"])
  if m.has Flag.fileName.text then
    match m.first? Flag.fileName.text with
    | none | some "" => ignored
    | some name =>
      if m.has Flag.multiple.text then ignored
      else (name, .reporting [.notice ("Using file name: " ++ name)])
  else (Configuration.defaultFileName, [])

/-- The type that one dimension of the class filter asks for. The empty text is a type. -/
def filterType (m : OptionMatrix) (flag : Flag) (verb what : String) : Option String × Trace :=
  if m.has flag.text then
    match m.first? flag.text with
    | none =>
      (none, .reporting
        [.warning ("'" ++ flag.text ++ "' option ignored - " ++ what ++ " not specified")])
    | some type =>
      (some type, .reporting [.notice ("Filtering classes " ++ verb ++ ": " ++ type)])
  else (none, [])

def superclass (m : OptionMatrix) : Option String × Trace :=
  filterType m .extends "extending" "superclass"

/-- The type of an annotation that a class must carry. -/
def annotationType (m : OptionMatrix) : Option String × Trace :=
  filterType m .annotated "annotated" "annotation"

def interface (m : OptionMatrix) : Option String × Trace :=
  filterType m .implements "implementing" "interface"

def notePart : Option String → String
  | none => "None"
  | some text => text

def tagTrace (d : TagDefinition) : Trace :=
  [.note .options
      ("Parsed tag " ++ d.name ++ " (scope=" ++ notePart d.scope ++ ", title=" ++
        notePart d.title ++ ")"),
    .diagnostic (.notice ("Using Tag " ++ d.name))]

/-- The definitions of the custom tags, in order. -/
def definitions (m : OptionMatrix) : List TagDefinition :=
  (m.values Flag.tag.text).map TagDefinition.parse

/-- The registry with the custom tags, over the standard ones where the names meet. -/
def withTags (ds : List TagDefinition) (r : Registry) : Registry :=
  ds.foldl (fun r d => r.put d.name d.toEnabledTaglet) r

/-- Loads the taglet classes that are named, separated by colons. -/
def taglets (env : Environment) (m : OptionMatrix) (r : Registry) :
    Except ForeignError Registry × Trace :=
  if m.has Flag.taglet.text then
    match m.first? Flag.taglet.text with
    | none => (.ok r, .reporting [.warning "'-taglet' option ignored - classes not specified"])
    | some names =>
      let loading := env.loadAll (Text.split ':' names) r
      (loading.loaded.map fun _ => loading.registry, loading.trace)
  else (.ok r, [])

end Build

/-- What keeps a check from coming to an end. -/
inductive BuildFault where
  /-- The lookup of the encoding fails for good. -/
  | encoding (fault : Encoding.Fault)
  /-- An error escapes while taglet classes are loaded. -/
  | taglets (e : ForeignError)
  deriving DecidableEq, Repr

/-- What a check amounts to: a configuration, or none after a fatal problem, unless it does not come to
an end; and what was reported on the way. -/
structure BuildResult where
  configuration : Except BuildFault (Option Configuration)
  trace : Trace

def build (env : Environment) (lookup : Encoding.Lookup) (m : OptionMatrix) : BuildResult :=
  match Build.directory m with
  | (none, directoryTrace) => ⟨.ok none, directoryTrace⟩
  | (some directory, directoryTrace) =>
    match Build.encoding lookup m with
    | (.error fault, encodingTrace) => ⟨.error (.encoding fault), directoryTrace ++ encodingTrace⟩
    | (.ok none, encodingTrace) => ⟨.ok none, directoryTrace ++ encodingTrace⟩
    | (.ok (some encoding), encodingTrace) =>
      let (fileName, fileNameTrace) := Build.fileName m
      let (superclass, superclassTrace) := Build.superclass m
      let (annotationType, annotationTrace) := Build.annotationType m
      let (interface, interfaceTrace) := Build.interface m
      let definitions := Build.definitions m
      let (loaded, tagletTrace) :=
        Build.taglets env m (Build.withTags definitions Registry.standard)
      { configuration :=
          match loaded with
          | .error e => .error (.taglets e)
          | .ok registry =>
            .ok (some (Configuration.make directory (m.has Flag.multiple.text)
              (m.has Flag.subfolders.text) encoding fileName ⟨superclass, interface, annotationType⟩
              registry))
        trace := directoryTrace ++ encodingTrace ++ fileNameTrace ++ superclassTrace ++
          annotationTrace ++ interfaceTrace ++ definitions.flatMap Build.tagTrace ++ tagletTrace }

/-- The text of the failure of a caller that insists on a configuration. -/
def invalidOptionsMessage : String := "Invalid doclet options"

end DocletPreflight
