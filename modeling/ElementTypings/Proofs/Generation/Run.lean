import ElementTypings.Generation.Generate
import ElementTypings.Proofs.Generation.Resolution
import ElementTypings.Proofs.Outcome

/-!
# Successful runs

A run that succeeds has blocks, a scope and type imports, and its document is put together from
these (`generate_eq_ok_iff`). `Generation.Run` names the parts; there is at most one run for a
configuration and a registry.

The scope at the end of a run has served a fixed list of requests (`Generation.Run.scope_eq`): first
the class alias of every component is reserved, then every component asks for its imports. A block
is made while the scope is still growing, but all that it took from the scope is in the final scope
as well (`Generation.BlockOf`).

The type imports of a document bind exactly the names that are bound in the final scope
(`Generation.Run.importedNames_eq`).
-/

namespace ElementTypings

namespace ImportSpecifier

/-- The name that the specifier binds. -/
def boundName (specifier : ImportSpecifier) : String :=
  specifier.localName.getD specifier.name

/-- A specifier binds the name that it was made for. -/
@[simp]
theorem boundName_binding (name bound : String) : (binding name bound).boundName = bound := by
  unfold boundName binding
  by_cases same : bound = name
  · simp [same]
  · simp [same]

end ImportSpecifier

/-- The names that an import statement binds. -/
def ImportStatement.boundNames (statement : ImportStatement) : List String :=
  statement.specifiers.map ImportSpecifier.boundName

namespace Generation

/-- The parts of a run that succeeds. -/
structure Run (config : BuildConfig) (registry : Registry) where
  blocks : List ComponentBlock
  scope : ImportScope
  imports : List ImportStatement
  blocks_eq : Generation.blocks config.sourceRoot (reserveAliases registry.ordered)
    registry.ordered = .ok (blocks, scope)
  imports_eq : typeImports config.sourceRoot scope = .ok imports

/-- The requests that a run makes of its scope. -/
def requests (components : List Component) : List ScopeRequest :=
  components.map (fun component => .reserve (TagName.pascalCase component.tagName)) ++
    components.flatMap Resolution.requests

/-- A run reserves the aliases of its components and no other names. -/
theorem reserve_mem_requests_iff {components : List Component} {name : String} :
    ScopeRequest.reserve name ∈ requests components ↔
      ∃ component ∈ components, TagName.pascalCase component.tagName = name := by
  unfold requests
  rw [List.mem_append, List.mem_map]
  constructor
  · rintro (⟨component, listed, same⟩ | asked)
    · exact ⟨component, listed, ScopeRequest.reserve.inj same⟩
    · obtain ⟨component, -, asked⟩ := List.mem_flatMap.mp asked
      obtain ⟨mention, -, same⟩ := List.mem_filterMap.mp asked
      obtain ⟨source, -, impossible⟩ := Option.map_eq_some_iff.mp same
      cases impossible
  · rintro ⟨component, listed, rfl⟩
    exact Or.inl ⟨component, listed, rfl⟩

/-- It asks for the imports that its components mention and for no others. -/
theorem bind_mem_requests_iff {components : List Component} {source name : String} :
    ScopeRequest.bind source name ∈ requests components ↔
      ∃ component ∈ components, ∃ mention ∈ component.mentions,
        Resolution.importSource? component mention.1 mention.2 = some source ∧
          mention.2.name = name := by
  unfold requests
  rw [List.mem_append, List.mem_map]
  constructor
  · rintro (⟨component, -, impossible⟩ | asked)
    · cases impossible
    · obtain ⟨component, listed, asked⟩ := List.mem_flatMap.mp asked
      obtain ⟨mention, mentioned, same⟩ := List.mem_filterMap.mp asked
      obtain ⟨origin, found, same⟩ := Option.map_eq_some_iff.mp same
      cases same
      exact ⟨component, listed, mention, mentioned, found, rfl⟩
  · rintro ⟨component, listed, mention, mentioned, found, rfl⟩
    refine Or.inr (List.mem_flatMap.mpr ⟨component, listed, ?_⟩)
    refine List.mem_filterMap.mpr ⟨mention, mentioned, ?_⟩
    rw [found, Option.map_some]

/-- The block comes from resolving the component in a scope that grew into the final one. -/
inductive BlockOf (sourceRoot : String) (final : ImportScope) (component : Component)
    (block : ComponentBlock) : Prop
  | intro {scope later : ImportScope} {resolved : MemberBindings} {classModule : String}
      (resolution : Resolution.component scope component = (.ok resolved, later))
      (kept : later.Keeps final)
      (located : ModuleSpecifier.ofFile sourceRoot component.sourcePath = .ok classModule)
      (synthesized : ComponentBlock.synthesize component resolved classModule = .ok block)

/-- Reporting a failure as one of a path keeps every success. -/
theorem ofPath_eq_ok_iff {Value : Type} {outcome : Except PathError Value} {value : Value} :
    ofPath outcome = .ok value ↔ outcome = .ok value := by
  cases outcome with
  | ok found => simp [ofPath]
  | error cause => simp [ofPath]

/-- Reserving aliases serves requests. -/
theorem reserveAliases_eq (components : List Component) :
    reserveAliases components = ImportScope.empty.serveAll
      (components.map fun component => .reserve (TagName.pascalCase component.tagName)) := by
  unfold reserveAliases ImportScope.serveAll
  rw [List.foldl_map]
  rfl

/-- Making a block serves the requests of its component, and takes what it needs from the scope that
it leaves. -/
theorem block_ok {sourceRoot : String} {scope later : ImportScope} {component : Component}
    {result : ComponentBlock} (succeeded : block sourceRoot scope component = .ok (result, later)) :
    later = scope.serveAll (Resolution.requests component) ∧
      BlockOf sourceRoot later component result := by
  unfold block at succeeded
  cases resolution : Resolution.component scope component with
  | mk answer grown =>
      cases answer with
      | error failure => simp [resolution] at succeeded
      | ok resolved =>
          simp only [resolution] at succeeded
          obtain ⟨classModule, located, succeeded⟩ := bind_eq_ok_iff.mp succeeded
          obtain ⟨made, synthesized, same⟩ := bind_eq_ok_iff.mp succeeded
          cases same
          exact ⟨Resolution.component_scope resolution,
            .intro resolution (ImportScope.Keeps.refl later) (ofPath_eq_ok_iff.mp located)
              synthesized⟩

/-- A block that was made for a scope is one for every scope that this one grows into. -/
theorem BlockOf.mono {sourceRoot : String} {scope final : ImportScope} {component : Component}
    {block : ComponentBlock} (made : BlockOf sourceRoot scope component block)
    (grows : scope.Keeps final) : BlockOf sourceRoot final component block := by
  obtain ⟨resolution, kept, located, synthesized⟩ := made
  exact .intro resolution (kept.trans grows) located synthesized

/-- Making blocks successfully asks for the imports of all components, one after another. -/
theorem blocks_ok {sourceRoot : String} {scope final : ImportScope} {components : List Component}
    {result : List ComponentBlock}
    (succeeded : blocks sourceRoot scope components = .ok (result, final)) :
    final = scope.serveAll (components.flatMap Resolution.requests) ∧
      List.Forall₂ (BlockOf sourceRoot final) components result := by
  induction components generalizing scope result with
  | nil =>
      rw [blocks] at succeeded
      cases succeeded
      exact ⟨rfl, .nil⟩
  | cons component rest ih =>
      rw [blocks] at succeeded
      obtain ⟨⟨first, middle⟩, made, succeeded⟩ := bind_eq_ok_iff.mp succeeded
      obtain ⟨⟨others, last⟩, madeLater, same⟩ := bind_eq_ok_iff.mp succeeded
      cases same
      obtain ⟨served, blockOf⟩ := block_ok made
      obtain ⟨servedLater, blocksOf⟩ := ih madeLater
      refine ⟨?_, .cons (blockOf.mono ?_) blocksOf⟩
      · rw [servedLater, served, List.flatMap_cons, ImportScope.serveAll_append]
      · rw [servedLater]
        exact ImportScope.keeps_serveAll _ _

/-- The import of a group is made for the module of its source and lists its bindings in order. -/
theorem typeImport_eq_ok_iff {sourceRoot : String} {group : String × List ImportBinding}
    {statement : ImportStatement} :
    typeImport sourceRoot group = .ok statement ↔
      ModuleSpecifier.ofSource sourceRoot group.1 = .ok statement.module ∧
        statement.specifiers = group.2.map (fun binding => .binding binding.name binding.bound) ∧
        statement.multiline = true := by
  unfold typeImport
  rw [bind_eq_ok_iff]
  constructor
  · rintro ⟨module, located, same⟩
    cases same
    exact ⟨ofPath_eq_ok_iff.mp located, rfl, rfl⟩
  · rintro ⟨located, specifiers, multiline⟩
    refine ⟨statement.module, ofPath_eq_ok_iff.mpr located, ?_⟩
    cases statement
    cases specifiers
    cases multiline
    rfl

/-- The statements for some groups bind the names that the groups are bound to. -/
private theorem boundNames_of_typeImports {sourceRoot : String}
    {groups : List (String × List ImportBinding)} {imports : List ImportStatement}
    (made : List.Forall₂ (fun group statement => typeImport sourceRoot group = .ok statement)
      groups imports) :
    imports.flatMap ImportStatement.boundNames =
      (groups.map Prod.snd).flatten.map ImportBinding.bound := by
  induction made with
  | nil => rfl
  | @cons group statement groups imports first _ ih =>
      obtain ⟨-, specifiers, -⟩ := typeImport_eq_ok_iff.mp first
      have names : statement.boundNames = group.2.map ImportBinding.bound := by
        rw [ImportStatement.boundNames, specifiers, List.map_map]
        apply List.map_congr_left
        intro binding _
        exact ImportSpecifier.boundName_binding binding.name binding.bound
      rw [List.flatMap_cons, ih, names, List.map_cons, List.flatten_cons, List.map_append]

namespace Run

variable {config : BuildConfig} {registry : Registry}

/-- The document that is put together from the parts of a run. -/
def document (run : Run config registry) : GeneratedDocument :=
  { path := LexicalPath.join config.sourceRoot documentName
    content := (Generation.document config run.imports run.blocks).render .standard
    summary := summary config run.scope run.blocks }

/-- The names that the type imports of the document bind. -/
def importedNames (run : Run config registry) : List String :=
  run.imports.flatMap ImportStatement.boundNames

/-- The final scope has served the requests of all components. -/
theorem scope_eq (run : Run config registry) :
    run.scope = ImportScope.empty.serveAll (requests registry.ordered) := by
  rw [(blocks_ok run.blocks_eq).1, reserveAliases_eq, requests, ImportScope.serveAll_append]

/-- The final scope is consistent, as every scope is that serves requests from the start. -/
theorem consistent (run : Run config registry) : run.scope.Consistent := by
  rw [run.scope_eq]
  exact ImportScope.consistent_serveAll_empty _

/-- Every component has its block, in order. -/
theorem blocksOf (run : Run config registry) :
    List.Forall₂ (BlockOf config.sourceRoot run.scope) registry.ordered run.blocks :=
  (blocks_ok run.blocks_eq).2

/-- Every group of the scope has its import statement, in order. -/
theorem importsOf (run : Run config registry) :
    List.Forall₂ (fun group statement => typeImport config.sourceRoot group = .ok statement)
      run.scope.groups.entries run.imports :=
  mapM_eq_ok_iff.mp run.imports_eq

/-- The names that the statements bind are those that are bound in the final scope. -/
theorem importedNames_eq (run : Run config registry) :
    run.importedNames = run.scope.bindings.map ImportBinding.bound :=
  boundNames_of_typeImports run.importsOf

/-- Every mention that is not ambient has a source, and the final scope has bound its symbol. -/
theorem bound_of_mention (run : Run config registry) {component : Component}
    (listed : component ∈ registry.ordered) {member : String} {reference : TypeReference}
    (mentioned : (member, reference) ∈ component.mentions)
    (imported : reference.location ≠ .global) :
    ∃ source bound, Resolution.source? component member reference = .ok (some source) ∧
      run.scope.boundName? source reference.name = some bound := by
  obtain ⟨block, -, ⟨resolution, -, -, -⟩⟩ := exists_of_forall₂ run.blocksOf listed
  obtain ⟨origin, found⟩ := Resolution.component_source resolution mentioned
  cases origin with
  | none => exact (imported (Resolution.location_of_source?_eq_none found)).elim
  | some source =>
      have asked : ScopeRequest.bind source reference.name ∈ requests registry.ordered := by
        refine bind_mem_requests_iff.mpr ⟨component, listed, _, mentioned, ?_, rfl⟩
        rw [Resolution.importSource?, found]
      have present : (run.scope.boundName? source reference.name).isSome := by
        rw [run.scope_eq, ImportScope.isSome_boundName?_serveAll]
        exact Or.inr asked
      obtain ⟨bound, known⟩ := Option.isSome_iff_exists.mp present
      exact ⟨source, bound, found, known⟩

/-- Every symbol that the final scope has bound is imported by a statement for its source. -/
theorem statement_of_bound (run : Run config registry) {source name bound : String}
    (known : run.scope.boundName? source name = some bound) :
    ∃ statement ∈ run.imports,
      ModuleSpecifier.ofSource config.sourceRoot source = .ok statement.module ∧
        ImportSpecifier.binding name bound ∈ statement.specifiers := by
  obtain ⟨group, found, held⟩ :=
    Option.bind_eq_some_iff.mp (ImportScope.boundName?_eq_some_iff.mp known)
  obtain ⟨statement, written, made⟩ :=
    exists_of_forall₂ run.importsOf (OrderedMap.lookup?_eq_some_iff.mp found)
  obtain ⟨located, specifiers, -⟩ := typeImport_eq_ok_iff.mp made
  refine ⟨statement, written, located, ?_⟩
  rw [specifiers]
  exact List.mem_map.mpr ⟨_, List.mem_of_find?_eq_some held, rfl⟩

end Run

end Generation

/-- Generation succeeds with a document exactly if there is a run that makes it. -/
theorem generate_eq_ok_iff {config : BuildConfig} {registry : Registry}
    {document : GeneratedDocument} :
    generate config registry = .ok document ↔
      ∃ run : Generation.Run config registry, run.document = document := by
  unfold generate
  rw [bind_eq_ok_iff]
  constructor
  · rintro ⟨⟨blocks, scope⟩, made, succeeded⟩
    obtain ⟨imports, imported, same⟩ := bind_eq_ok_iff.mp succeeded
    cases same
    exact ⟨⟨blocks, scope, imports, made, imported⟩, rfl⟩
  · rintro ⟨run, rfl⟩
    exact ⟨(run.blocks, run.scope), run.blocks_eq,
      bind_eq_ok_iff.mpr ⟨run.imports, run.imports_eq, rfl⟩⟩

/-- Generation succeeds exactly if there is a run. -/
theorem exists_document_iff {config : BuildConfig} {registry : Registry} :
    (∃ document, generate config registry = .ok document) ↔
      Nonempty (Generation.Run config registry) := by
  simp only [generate_eq_ok_iff]
  constructor
  · rintro ⟨_, run, -⟩
    exact ⟨run⟩
  · rintro ⟨run⟩
    exact ⟨run.document, run, rfl⟩

namespace Generation

/-- Components for which blocks and imports can be made have a run. -/
theorem nonempty_run {config : BuildConfig} {registry : Registry} {components : List Component}
    (ordered : registry.ordered = components)
    (succeeds : (Generation.blocks config.sourceRoot (reserveAliases components) components >>=
      fun made => typeImports config.sourceRoot made.2).isOk) :
    Nonempty (Run config registry) := by
  cases made : Generation.blocks config.sourceRoot (reserveAliases components) components with
  | error failure =>
      rw [made] at succeeds
      cases succeeds
  | ok parts =>
      rw [made] at succeeds
      cases imported : typeImports config.sourceRoot parts.2 with
      | error failure =>
          change (typeImports config.sourceRoot parts.2).isOk at succeeds
          rw [imported] at succeeds
          cases succeeds
      | ok imports => exact ⟨⟨parts.1, parts.2, imports, ordered ▸ made, imported⟩⟩

/-! ### A project in which names collide

Two modules export a type `Foo`, and the name `Foo2` is the class alias of a component. -/

/-- The configuration of the project. -/
def collidingConfig : BuildConfig :=
  { sourceRoot := "/app/src" }

/-- A component that imports `Foo` from one module. -/
def firstColliding : Component :=
  { tagName := "x-first"
    className := "First"
    members := OrderedMap.ofList
      [("item", ⟨.property, some ⟨"Foo[]", [⟨"Foo", .module, some "./lib/one"⟩]⟩⟩)]
    sourcePath := "/app/src/first.tsx" }

/-- A component that imports `Foo` from both modules for one member. -/
def secondColliding : Component :=
  { tagName := "foo2"
    className := "Second"
    members := OrderedMap.ofList
      [("open", ⟨.state, none⟩),
        ("item", ⟨.mutableProperty, some ⟨"Foo | Date",
          [⟨"Foo", .module, some "./lib/one.ts"⟩, ⟨"Date", .global, none⟩,
            ⟨"Foo", .module, some "./lib/two"⟩]⟩⟩)]
    sourcePath := "/app/src/second.tsx" }

/-- The registry of the project, scanned in another order than that of the files. -/
def collidingRegistry : Registry :=
  (Registry.empty.insert secondColliding.sourcePath (some secondColliding)).insert
    firstColliding.sourcePath (some firstColliding)

/-- The first component comes first. -/
theorem ordered_collidingRegistry :
    collidingRegistry.ordered = [firstColliding, secondColliding] := by
  have present : collidingRegistry.present =
      [("/app/src/second.tsx", secondColliding), ("/app/src/first.tsx", firstColliding)] := rfl
  rw [Registry.ordered, present]
  simp [List.mergeSort, List.MergeSort.Internal.splitInTwo]

/-- Generation succeeds in spite of the collision. -/
theorem nonempty_collidingRun : Nonempty (Run collidingConfig collidingRegistry) :=
  nonempty_run ordered_collidingRegistry (by decide +kernel)

end Generation

end ElementTypings
