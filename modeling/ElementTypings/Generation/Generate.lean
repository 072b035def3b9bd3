import ElementTypings.BuildConfig
import ElementTypings.Declaration.Document
import ElementTypings.Generation.ComponentBlock
import ElementTypings.Registry

/-!
# Generating the document

One run takes the components in the order of their files, resolves each against the scope that all
of them share, and assembles the document. The class aliases of all components are reserved before
any type is imported, so no import can take one of them.
-/

namespace ElementTypings

/-- The numbers that describe a run. -/
structure GenerationSummary where
  components : Nat
  collections : Nat
  /-- The modules that types are imported from. -/
  importGroups : Nat
  /-- The types that are imported. -/
  bindings : Nat
  /-- The types that are imported under another name. -/
  renamed : Nat
deriving DecidableEq, Repr

/-- A generated document and where it belongs. -/
structure GeneratedDocument where
  path : String
  content : String
  summary : GenerationSummary
deriving DecidableEq, Repr

namespace Generation

/-- The name of the document in the source root. -/
def documentName : String := "components.d.ts"

/-- The comment at the head of the document. -/
def header : List String :=
  ["This is an autogenerated file created by tagtype.",
    "It contains typing information for all components that exist in this project",
    "and imports for the extension collections configured in tagtype.toml."]

/-- The scope in which the class aliases of the components are reserved. -/
def reserveAliases (components : List Component) : ImportScope :=
  components.foldl (fun scope component => scope.reserve (TagName.pascalCase component.tagName))
    ImportScope.empty

/-- The outcome of a lexical operation as one of generation. -/
def ofPath {Value : Type} : Except PathError Value → Except GenerationFailure Value
  | .ok value => .ok value
  | .error cause => .error (.path cause)

/-- The block of one component, and the scope after its references are resolved. -/
def block (sourceRoot : String) (scope : ImportScope) (component : Component) :
    Except GenerationFailure (ComponentBlock × ImportScope) :=
  match Resolution.component scope component with
  | (.error failure, _) => .error failure
  | (.ok resolved, scope) => do
    let classModule ← ofPath (ModuleSpecifier.ofFile sourceRoot component.sourcePath)
    pure (← ComponentBlock.synthesize component resolved classModule, scope)

/-- The blocks of the components, and the scope after the last of them. -/
def blocks (sourceRoot : String) (scope : ImportScope) :
    List Component → Except GenerationFailure (List ComponentBlock × ImportScope)
  | [] => .ok ([], scope)
  | component :: later => do
    let (first, scope) ← block sourceRoot scope component
    let (rest, scope) ← blocks sourceRoot scope later
    pure (first :: rest, scope)

/-- The import of one group of types. -/
def typeImport (sourceRoot : String) (group : String × List ImportBinding) :
    Except GenerationFailure ImportStatement := do
  let module ← ofPath (ModuleSpecifier.ofSource sourceRoot group.1)
  pure
    { module
      specifiers := group.2.map fun binding => .binding binding.name binding.bound
      multiline := true }

/-- The imports of all groups, in the order in which the groups came up. -/
def typeImports (sourceRoot : String) (scope : ImportScope) :
    Except GenerationFailure (List ImportStatement) :=
  scope.groups.entries.mapM (typeImport sourceRoot)

/-- The document that declares the given blocks. -/
def document (config : BuildConfig) (imports : List ImportStatement)
    (blocks : List ComponentBlock) : Document :=
  { header
    collections := config.collections.map ImportStatement.sideEffect
    imports
    blocks := blocks.map ComponentBlock.fragments }

/-- The numbers of a run that ended with the given scope. -/
def summary (config : BuildConfig) (scope : ImportScope) (blocks : List ComponentBlock) :
    GenerationSummary :=
  { components := blocks.length
    collections := config.collections.length
    importGroups := scope.groups.size
    bindings := scope.bindings.length
    renamed := (scope.bindings.filter ImportBinding.isRenamed).length }

end Generation

/-- Generates the declarations of all components of a registry. -/
def generate (config : BuildConfig) (registry : Registry) :
    Except GenerationFailure GeneratedDocument := do
  let components := registry.ordered
  let (blocks, scope) ←
    Generation.blocks config.sourceRoot (Generation.reserveAliases components) components
  let imports ← Generation.typeImports config.sourceRoot scope
  pure
    { path := LexicalPath.join config.sourceRoot Generation.documentName
      content := (Generation.document config imports blocks).render .standard
      summary := Generation.summary config scope blocks }

end ElementTypings
