import ElementTypings.Component
import ElementTypings.Generation.Failure
import ElementTypings.ImportScope
import ElementTypings.Path.Lexical
import ElementTypings.TypeText.Renaming

/-!
# Resolving the references of a component

Every type that an observable member mentions, unless it is ambient, is imported into the shared
scope from its source: the component's own file, a file that a relative path leads to, or a
package. Files are named without the extension of a TypeScript file, so that all spellings of one
file are one source.

A reference whose source cannot be told ends the resolution; what was bound before it stays bound.
-/

namespace ElementTypings

/-- The new names of the types that each observable member mentions. -/
abbrev MemberBindings := OrderedMap TypeText.Bindings

namespace Resolution

/-- The source of a reference, or nothing for an ambient type. -/
def source? (component : Component) (member : String) (reference : TypeReference) :
    Except GenerationFailure (Option String) :=
  match reference.location with
  | .global => .ok none
  | .ownFile => .ok (some (ModuleSpecifier.stripExtension component.sourcePath))
  | .module =>
    match reference.path with
    | none => .error (.missingImportPath reference.name member component.tagName)
    | some path =>
      if path.toList.head? = some '.' then
        match LexicalPath.resolve (LexicalPath.directory component.sourcePath) path with
        | .ok file => .ok (some (ModuleSpecifier.stripExtension file))
        | .error cause => .error (.path cause)
      else .ok (some path)
  | .unknown kind => .error (.unknownLocation kind member component.tagName)

/-- Imports the types of the given references and adds their new names to `bindings`. -/
def references (component : Component) (member : String) (bindings : TypeText.Bindings)
    (scope : ImportScope) :
    List TypeReference → Except GenerationFailure TypeText.Bindings × ImportScope
  | [] => (.ok bindings, scope)
  | reference :: later =>
    match source? component member reference with
    | .error failure => (.error failure, scope)
    | .ok none => references component member bindings scope later
    | .ok (some source) =>
      let (bound, scope) := scope.bind source reference.name
      references component member (bindings.insert reference.name bound) scope later

/-- Imports the types that the given members mention; a member without a type gets no bindings. -/
def members (component : Component) (resolved : MemberBindings) (scope : ImportScope) :
    List (String × Member) → Except GenerationFailure MemberBindings × ImportScope
  | [] => (.ok resolved, scope)
  | (name, member) :: later =>
    match member.type with
    | none => members component resolved scope later
    | some type =>
      match references component name ∅ scope type.references with
      | (.error failure, scope) => (.error failure, scope)
      | (.ok bindings, scope) =>
        members component (resolved.insert name bindings) scope later

/-- Imports every type that the component's observable members mention. -/
def component (scope : ImportScope) (component : Component) :
    Except GenerationFailure MemberBindings × ImportScope :=
  members component ∅ scope component.observableMembers

end Resolution

end ElementTypings
