import ElementTypings.BuildConfig.Reading
import ElementTypings.Registry.Reading
import ElementTypings.Text.Offset

/-!
# Why a project cannot be loaded

A file of the project cannot be read, does not parse, or repeats a tag. A diagnostic shows the
message with the places in the file that it is about.
-/

namespace ElementTypings

/-- A file of the project as it was read: the name it was asked for by, and its text. -/
structure SourceText where
  name : String
  content : String
deriving DecidableEq, Repr

/-- A remark on a range of bytes. -/
structure Label where
  text : String
  offset : Nat
  length : Nat
deriving DecidableEq, Repr

/-- Why a file of a project was refused. -/
inductive InputFailure where
  /-- The file cannot be read. -/
  | unreadable (path : String)
  /-- The registry is no registry. -/
  | registry (source : SourceText) (failure : Json.Failure)
  /-- The configuration is no configuration. -/
  | config (source : SourceText) (failure : ConfigFailure)
  /-- Two components of the registry have one tag. -/
  | duplicateTag (source : SourceText) (duplicate : Registry.DuplicateTag)

namespace InputFailure

/-- The message that reports the failure. -/
def message : InputFailure → String
  | unreadable path => "failed to read '" ++ path ++ "'"
  | registry .. => "failed to parse component registry"
  | config .. => "failed to parse tagtype.toml"
  | duplicateTag _ duplicate => "duplicate tag name '" ++ duplicate.tag ++ "'"

/-- The code that identifies the kind of failure, where it has one. -/
def code? : InputFailure → Option String
  | unreadable _ => none
  | registry .. => some "tagtype::registry_parse"
  | config .. => some "tagtype::config_parse"
  | duplicateTag .. => some "tagtype::duplicate_tag"

/-- Advice on how to mend the failure. -/
def help? : InputFailure → Option String
  | unreadable _ => some "run the metadata extraction step first, or pass --registry"
  | duplicateTag _ duplicate =>
    some ("tag names must be unique; rename the tag declared in '" ++ duplicate.second ++ "'")
  | _ => none

/-- The message of the reader that refused the file. -/
def cause? : InputFailure → Option String
  | registry _ failure => some failure.message
  | config _ failure => some failure.fault.message
  | _ => none

/-- The file that the failure is about. -/
def source? : InputFailure → Option SourceText
  | unreadable _ => none
  | registry source _ | config source _ | duplicateTag source _ => some source

/-- The remark on the place where a reader stopped. -/
def stoppedHere : String := "parse error here"

/-- The remarks on a repeated tag: the first two places of the file at which it stands between
quotes. -/
def duplicateLabels (source : SourceText) (duplicate : Registry.DuplicateTag) : List Label :=
  let needle := "\"" ++ duplicate.tag ++ "\""
  let remarks := ["first declared by '" ++ duplicate.first ++ "'", "declared again here"]
  (remarks.zip (Text.occurrences needle source.content)).map fun (text, offset) =>
    { text, offset, length := needle.utf8ByteSize }

/-- The remarks on places in the file. -/
def labels : InputFailure → List Label
  | unreadable _ => []
  | registry source failure =>
    ((Text.Position.offset? source.content.toUTF8.data.toList failure.position).map fun offset =>
      { text := stoppedHere, offset, length := 0 }).toList
  | config _ failure =>
    [{ text := stoppedHere
       offset := failure.span.start
       length := failure.span.stop - failure.span.start }]
  | duplicateTag source duplicate => duplicateLabels source duplicate

end InputFailure

namespace Registry

/-- The registry of a file, whose components have distinct tags. -/
def ofSource (source : SourceText) : Except InputFailure Registry :=
  match ofJson source.content with
  | .error failure => .error (.registry source failure)
  | .ok registry =>
    match registry.duplicateTag? with
    | some duplicate => .error (.duplicateTag source duplicate)
    | none => .ok registry

end Registry

namespace BuildConfig

/-- The configuration of a file. -/
def ofSource (source : SourceText) : Except InputFailure BuildConfig :=
  match ofToml source.content with
  | .error failure => .error (.config source failure)
  | .ok config => .ok config

end BuildConfig

end ElementTypings
