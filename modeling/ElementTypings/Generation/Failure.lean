import ElementTypings.Path.Lexical

/-!
# Why declarations cannot be generated

Generation either gives a whole document or fails; these are the causes, with the member and the
component at fault where there are such.
-/

namespace ElementTypings

/-- A cause for which no declarations are generated. -/
inductive GenerationFailure where
  /-- A reference gives a location that is not known. -/
  | unknownLocation (kind member component : String)
  /-- A type is imported from a module without a path. -/
  | missingImportPath (name member component : String)
  /-- An observable member has no type. -/
  | missingAttributeType (member component : String)
  /-- A path that has to be absolute is not. -/
  | path (cause : PathError)
deriving DecidableEq, Repr

namespace GenerationFailure

/-- The message that reports the failure. -/
def message : GenerationFailure → String
  | unknownLocation kind member component =>
    "unrecognized type reference location '" ++ kind ++ "' on member '" ++ member ++
      "' of component '" ++ component ++ "'"
  | missingImportPath name member component =>
    "type '" ++ name ++ "' on member '" ++ member ++ "' of component '" ++ component ++
      "' is imported but has no path"
  | missingAttributeType member component =>
    "member '" ++ member ++ "' of component '" ++ component ++ "' is an attribute without a type"
  | path _ => "failed to resolve a path"

/-- The code that identifies the kind of failure. -/
def code : GenerationFailure → String
  | unknownLocation .. => "tagtype::unknown_location"
  | missingImportPath .. => "tagtype::missing_import_path"
  | missingAttributeType .. => "tagtype::missing_attribute_type"
  | path _ => "tagtype::path"

/-- Advice on how to mend the failure. -/
def help? : GenerationFailure → Option String
  | unknownLocation .. => some "reference locations must be one of: global, local, import"
  | _ => none

/-- The messages of the failure and of its cause, the outermost first. -/
def chain (failure : GenerationFailure) : List String :=
  failure.message ::
    match failure with
    | path cause => [cause.message]
    | _ => []

end GenerationFailure

end ElementTypings
