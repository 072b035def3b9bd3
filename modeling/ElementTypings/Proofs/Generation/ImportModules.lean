import ElementTypings.Proofs.Generation.Run
import ElementTypings.Proofs.ModuleSpecifier.Sources
import ElementTypings.Proofs.Registry.Scans

/-!
# The modules that types are imported from

A document has one import statement for every source of types. Two statements have one module
exactly if their sources are absolute paths that a specifier does not tell apart, as two spellings
of one file are. So every module is imported by one statement exactly if no two sources are such
paths, and a symbol of it is then bound to one name (`files_imported_once`).

A relative path is brought into normal form before its extension is dropped, so it leads to a
canonical source as long as the file has an ordinary name. The path of a component's own file loses
its extension only, and any other path is the source as it is written (`Resolution.SpelledBy`). An
absolute path that is written with its extension is a source of its own, beside that of the relative
path to the same file (`absolute_path_imported_again`).
-/

namespace ElementTypings

open LexicalPath (isAbsolute normalize)
open ModuleSpecifier
  (Comparable HasOrdinaryName Indistinct IsCanonical Outside fileOf stripExtension)

namespace Resolution

/-- The path of a file has an ordinary name with one extension at most. -/
structure IsPlain (file : String) : Prop where
  ordinary : HasOrdinaryName file
  single : stripExtension (stripExtension file) = stripExtension file

/-- How a reference spells its source. -/
inductive SpelledBy (component : Component) (reference : TypeReference) (source : String) : Prop
  /-- The component's own file, as its path is written, without the extension. -/
  | ownFile (located : reference.location = .ownFile)
      (stripped : source = stripExtension component.sourcePath)
      (canonical : normalize component.sourcePath.toList = component.sourcePath.toList →
        IsPlain component.sourcePath → IsCanonical source)
  /-- The file that a relative path leads to, without the extension. -/
  | relative {path file : String} (located : reference.location = .module)
      (given : reference.path = some path) (dot : path.toList.head? = some '.')
      (led : LexicalPath.resolve (LexicalPath.directory component.sourcePath) path = .ok file)
      (stripped : source = stripExtension file) (canonical : IsPlain file → IsCanonical source)
  /-- Any other path, as it is written. -/
  | verbatim (located : reference.location = .module) (given : reference.path = some source)
      (other : source.toList.head? ≠ some '.')

/-- A source that is found is spelled by its reference in one of the three ways. -/
theorem spelledBy_of_source? {component : Component} {member : String} {reference : TypeReference}
    {source : String} (absolute : isAbsolute component.sourcePath)
    (found : source? component member reference = .ok (some source)) :
    SpelledBy component reference source := by
  unfold source? at found
  split at found
  · cases found
  · next located =>
    cases found
    refine .ownFile located rfl fun normal plain => ?_
    exact ModuleSpecifier.isCanonical_stripExtension absolute normal plain.ordinary plain.single
  · next located =>
    split at found
    · cases found
    · next path given =>
      split at found
      · next dot =>
        split at found
        · next file led =>
          cases found
          obtain ⟨absolute, normal⟩ := LexicalPath.resolve_of_dot dot led
          refine .relative located given dot led rfl fun plain => ?_
          exact ModuleSpecifier.isCanonical_stripExtension absolute normal plain.ordinary
            plain.single
        · cases found
      · next other =>
        cases found
        exact .verbatim located given other
  · cases found

/-- A source that is imported from was found without a failure. -/
theorem source?_of_importSource? {component : Component} {member : String}
    {reference : TypeReference} {source : String}
    (found : importSource? component member reference = some source) :
    source? component member reference = .ok (some source) := by
  unfold importSource? at found
  split at found
  · next answered =>
    subst found
    exact answered
  · cases found

/-- No source begins with a dot, as the specifier of a file does. -/
theorem SpelledBy.head?_ne_dot {component : Component} {reference : TypeReference} {source : String}
    (absolute : isAbsolute component.sourcePath)
    (spelled : SpelledBy component reference source) : source.toList.head? ≠ some '.' := by
  have stripped : ∀ file : String, isAbsolute file →
      (stripExtension file).toList.head? ≠ some '.' := by
    intro file absolute dot
    apply LexicalPath.not_isAbsolute_of_dot ?_ absolute
    rw [ModuleSpecifier.stripExtension_eq, String.toList_ofList] at dot
    obtain ⟨rest, text⟩ := ModuleSpecifier.stem_isPrefix file.toList
    obtain ⟨later, begins⟩ := List.head?_eq_some_iff.mp dot
    rw [← text, begins]
    rfl
  cases spelled with
  | ownFile _ same =>
      rw [same]
      exact stripped _ absolute
  | relative _ _ dot led same =>
      rw [same]
      exact stripped _ (LexicalPath.resolve_of_dot dot led).1
  | verbatim _ _ other => exact other

end Resolution

namespace Generation

/-- The sources are packages or canonical paths, both on a drive or neither. -/
structure Settled (first second : String) : Prop where
  canonical : isAbsolute first → IsCanonical first
  canonical' : isAbsolute second → IsCanonical second
  drives : isAbsolute first → isAbsolute second →
    ((LexicalPath.ofText first.toList).root = .slash ↔
      (LexicalPath.ofText second.toList).root = .slash)

/-- A component has a block only if its path is absolute. -/
theorem BlockOf.isAbsolute_sourcePath {sourceRoot : String} {final : ImportScope}
    {component : Component} {block : ComponentBlock}
    (made : BlockOf sourceRoot final component block) : isAbsolute component.sourcePath := by
  obtain ⟨-, -, located, -⟩ := made
  exact (ModuleSpecifier.ofFile_eq_ok_iff.mp located).2.1

namespace Run

variable {config : BuildConfig} {registry : Registry}

/-- The sources of the types that the document imports, in the order of their first use. -/
def sources (run : Run config registry) : List String :=
  run.scope.groups.keys

/-- The sources are distinct, since each has one group. -/
theorem sources_nodup (run : Run config registry) : run.sources.Nodup :=
  run.scope.groups.keys_nodup

/-- The statement is the one that imports from the source. -/
def ImportsFrom (run : Run config registry) (source : String) (statement : ImportStatement) :
    Prop :=
  (source, statement) ∈ run.sources.zip run.imports

/-- The statements are made from the groups of the sources, one each and in order. -/
theorem importsOfSources (run : Run config registry) :
    List.Forall₂ (fun source statement => ∃ group, run.scope.group? source = some group ∧
      typeImport config.sourceRoot (source, group) = .ok statement) run.sources run.imports := by
  rw [sources, OrderedMap.keys, List.forall₂_map_left_iff]
  refine forall₂_imp_of_mem run.importsOf ?_
  intro entry listed statement made
  exact ⟨entry.2, OrderedMap.lookup?_eq_some_iff.mpr listed, made⟩

/-- Every source is paired with a statement, in order. -/
theorem map_fst_zip_imports (run : Run config registry) :
    (run.sources.zip run.imports).map Prod.fst = run.sources :=
  List.map_fst_zip (Nat.le_of_eq run.importsOfSources.length_eq)

/-- Every statement is paired with a source, in order. -/
theorem map_snd_zip_imports (run : Run config registry) :
    (run.sources.zip run.imports).map Prod.snd = run.imports :=
  List.map_snd_zip (Nat.le_of_eq run.importsOfSources.length_eq.symm)

/-- The statement of a source is made from its group. -/
theorem group_of_importsFrom (run : Run config registry) {source : String}
    {statement : ImportStatement} (imported : run.ImportsFrom source statement) :
    ∃ group, run.scope.group? source = some group ∧
      typeImport config.sourceRoot (source, group) = .ok statement :=
  (List.forall₂_iff_zip.mp run.importsOfSources).2 imported

/-- A source has one statement. -/
theorem statement_eq_of_importsFrom (run : Run config registry) {source : String}
    {statement statement' : ImportStatement} (imported : run.ImportsFrom source statement)
    (imported' : run.ImportsFrom source statement') : statement = statement' := by
  obtain ⟨group, found, made⟩ := run.group_of_importsFrom imported
  obtain ⟨group', found', made'⟩ := run.group_of_importsFrom imported'
  obtain rfl := Option.some.inj (found.symm.trans found')
  exact Except.ok.inj (made.symm.trans made')

/-- A statement lists no name twice. -/
theorem names_nodup_of_importsFrom (run : Run config registry) {source : String}
    {statement : ImportStatement} (imported : run.ImportsFrom source statement) :
    (statement.specifiers.map ImportSpecifier.name).Nodup := by
  obtain ⟨group, found, made⟩ := run.group_of_importsFrom imported
  have names : statement.specifiers.map ImportSpecifier.name = group.map ImportBinding.name := by
    rw [(typeImport_eq_ok_iff.mp made).2.1, List.map_map]
    rfl
  rw [names]
  exact run.consistent.names_nodup found

/-- The module of a statement is the specifier of its source. -/
theorem ofSource_of_importsFrom (run : Run config registry) {source : String}
    {statement : ImportStatement} (imported : run.ImportsFrom source statement) :
    ModuleSpecifier.ofSource config.sourceRoot source = .ok statement.module := by
  obtain ⟨group, -, made⟩ := run.group_of_importsFrom imported
  exact (typeImport_eq_ok_iff.mp made).1

/-- Every source is spelled by a reference of a component. -/
theorem spelledBy_of_mem_sources (run : Run config registry) {source : String}
    (listed : source ∈ run.sources) :
    ∃ component reference, isAbsolute component.sourcePath ∧
      Resolution.SpelledBy component reference source := by
  obtain ⟨⟨_, group⟩, held, rfl⟩ := List.mem_map.mp listed
  have found := OrderedMap.lookup?_eq_some_iff.mpr held
  obtain ⟨binding, member⟩ := List.exists_mem_of_ne_nil _ (run.consistent.group_ne_nil found)
  have known := ImportScope.isSome_boundName?_of_mem_group found member
  rw [run.scope_eq, ImportScope.isSome_boundName?_serveAll] at known
  rcases known with impossible | asked
  · cases impossible
  · obtain ⟨component, present, mention, -, spelled, -⟩ := bind_mem_requests_iff.mp asked
    obtain ⟨_, -, made⟩ := exists_of_forall₂ run.blocksOf present
    have absolute := made.isAbsolute_sourcePath
    exact ⟨component, mention.2, absolute, Resolution.spelledBy_of_source? absolute
      (Resolution.source?_of_importSource? spelled)⟩

/-- Every mention that is not ambient is listed by the statement for the source that it spells. -/
theorem importsFrom_of_mention (run : Run config registry) {component : Component}
    (listed : component ∈ registry.ordered) {mention : String × TypeReference}
    (mentioned : mention ∈ component.mentions) (imported : mention.2.location ≠ .global) :
    ∃ source statement, run.ImportsFrom source statement ∧
      Resolution.SpelledBy component mention.2 source ∧
      mention.2.name ∈ statement.specifiers.map ImportSpecifier.name := by
  obtain ⟨source, bound, found, known⟩ := run.bound_of_mention listed mentioned imported
  obtain ⟨_, -, made⟩ := exists_of_forall₂ run.blocksOf listed
  have spelled := Resolution.spelledBy_of_source? made.isAbsolute_sourcePath found
  obtain ⟨group, held, binding⟩ :=
    Option.bind_eq_some_iff.mp (ImportScope.boundName?_eq_some_iff.mp known)
  have present : source ∈ (run.sources.zip run.imports).map Prod.fst := by
    rw [run.map_fst_zip_imports]
    exact List.mem_map.mpr ⟨(source, group), OrderedMap.lookup?_eq_some_iff.mp held, rfl⟩
  obtain ⟨⟨_, statement⟩, paired, rfl⟩ := List.mem_map.mp present
  refine ⟨_, statement, paired, spelled, ?_⟩
  obtain ⟨group', held', written⟩ := run.group_of_importsFrom paired
  obtain rfl := Option.some.inj (held.symm.trans held')
  rw [(typeImport_eq_ok_iff.mp written).2.1, List.map_map]
  exact List.mem_map.mpr ⟨_, List.mem_of_find?_eq_some binding, rfl⟩

/-- Every statement is the one of some source. -/
theorem exists_importsFrom (run : Run config registry) {statement : ImportStatement}
    (written : statement ∈ run.imports) : ∃ source, run.ImportsFrom source statement := by
  rw [← run.map_snd_zip_imports] at written
  obtain ⟨⟨source, _⟩, paired, rfl⟩ := List.mem_map.mp written
  exact ⟨source, paired⟩

/-- No source of a run begins with a dot. -/
theorem head?_source_ne_dot (run : Run config registry) {source : String}
    (listed : source ∈ run.sources) : source.toList.head? ≠ some '.' := by
  obtain ⟨component, reference, rooted, spelled⟩ := run.spelledBy_of_mem_sources listed
  exact spelled.head?_ne_dot rooted

/-- Two statements have one module exactly if their sources cannot be told apart. -/
theorem module_eq_iff (run : Run config registry) {first second : String}
    {statement statement' : ImportStatement} (imported : run.ImportsFrom first statement)
    (imported' : run.ImportsFrom second statement') :
    statement.module = statement'.module ↔
      first = second ∨ Indistinct config.sourceRoot first second :=
  ModuleSpecifier.module_eq_iff (run.ofSource_of_importsFrom imported)
    (run.ofSource_of_importsFrom imported')
    (run.head?_source_ne_dot (List.of_mem_zip imported).1)
    (run.head?_source_ne_dot (List.of_mem_zip imported').1)

/-- No two sources of the types are absolute paths that specifiers do not tell apart. -/
def Separate (run : Run config registry) : Prop :=
  run.sources.Pairwise fun first second => ¬ Indistinct config.sourceRoot first second

/-- No module is imported twice exactly if the sources are separate. -/
theorem modules_nodup_iff (run : Run config registry) :
    (run.imports.map ImportStatement.module).Nodup ↔ run.Separate := by
  have sources : ∀ apart : String → String → Prop,
      (run.sources.zip run.imports).Pairwise (fun one other => apart one.1 other.1) ↔
        run.sources.Pairwise apart := by
    intro apart
    rw [← List.pairwise_map, run.map_fst_zip_imports]
  have imports : (run.sources.zip run.imports).map (fun one => one.2.module) =
      run.imports.map ImportStatement.module := by
    have seconds := congrArg (List.map ImportStatement.module) run.map_snd_zip_imports
    rwa [List.map_map] at seconds
  -- Both sides speak of the pairs of a source and its statement.
  calc (run.imports.map ImportStatement.module).Nodup
      ↔ (run.sources.zip run.imports).Pairwise
          fun one other => one.2.module ≠ other.2.module := by
        rw [← imports, List.Nodup, List.pairwise_map]
    _ ↔ (run.sources.zip run.imports).Pairwise fun one other =>
          one.1 ≠ other.1 ∧ ¬ Indistinct config.sourceRoot one.1 other.1 := by
        apply List.Pairwise.iff_of_mem
        intro one other imported imported'
        rw [Ne, run.module_eq_iff imported imported', not_or]
    _ ↔ run.sources.Nodup ∧ run.Separate := by
        rw [List.pairwise_and_iff, sources fun first second => first ≠ second,
          sources fun first second => ¬ Indistinct config.sourceRoot first second]
        rfl
    _ ↔ run.Separate := and_iff_right run.sources_nodup

/-- What a run guarantees of the sources that types are imported from. -/
structure ImportsOnce (run : Run config registry) : Prop where
  /-- Every source has one statement, which imports from the source's module. -/
  located : List.Forall₂ (fun source statement =>
    ModuleSpecifier.ofSource config.sourceRoot source = .ok statement.module)
    run.sources run.imports
  distinct : run.sources.Nodup
  /-- No module is imported twice exactly if the sources are separate. -/
  modules : (run.imports.map ImportStatement.module).Nodup ↔ run.Separate
  /-- A symbol of separate sources has one name for one module. -/
  bound : run.Separate → ∀ statement ∈ run.imports, ∀ statement' ∈ run.imports,
    statement.module = statement'.module →
      ∀ specifier ∈ statement.specifiers, ∀ specifier' ∈ statement'.specifiers,
        specifier.name = specifier'.name → specifier.boundName = specifier'.boundName
  /-- Statements share a module exactly if their sources cannot be told apart. -/
  shared : ∀ {first second statement statement'}, run.ImportsFrom first statement →
    run.ImportsFrom second statement' →
      (statement.module = statement'.module ↔
        first = second ∨ Indistinct config.sourceRoot first second)
  /-- Sources that cannot be told apart, but can be compared, are spellings of one file. -/
  oneFile : ∀ first ∈ run.sources, ∀ second ∈ run.sources,
    Indistinct config.sourceRoot first second → Comparable first second →
      fileOf first = fileOf second
  /-- Spellings of one file that is not around the source root cannot be told apart. -/
  respelled : ∀ first ∈ run.sources, ∀ second ∈ run.sources, isAbsolute first →
    isAbsolute second → Comparable first second → Outside config.sourceRoot first →
      Outside config.sourceRoot second → fileOf first = fileOf second →
        Indistinct config.sourceRoot first second
  /-- Settled sources can be told apart. -/
  settled : ∀ first ∈ run.sources, ∀ second ∈ run.sources,
    Indistinct config.sourceRoot first second → Settled first second → first = second
  /-- Every mention that is not ambient is imported from the source that it spells. -/
  spelled : ∀ component ∈ registry.ordered, ∀ mention ∈ component.mentions,
    mention.2.location ≠ .global →
      ∃ source statement, run.ImportsFrom source statement ∧
        Resolution.SpelledBy component mention.2 source ∧
        mention.2.name ∈ statement.specifiers.map ImportSpecifier.name

/-- The guarantees hold of every run. -/
theorem importsOnce (run : Run config registry) : run.ImportsOnce where
  located :=
    List.forall₂_iff_zip.mpr ⟨run.importsOfSources.length_eq, run.ofSource_of_importsFrom⟩
  distinct := run.sources_nodup
  modules := run.modules_nodup_iff
  bound := by
    intro separate statement written statement' written' same specifier listed specifier' listed'
      named
    obtain rfl := List.inj_on_of_nodup_map (run.modules_nodup_iff.mpr separate) written written'
      same
    obtain ⟨source, imported⟩ := run.exists_importsFrom written
    rw [List.inj_on_of_nodup_map (run.names_nodup_of_importsFrom imported) listed listed' named]
  shared := run.module_eq_iff
  oneFile := fun _ _ _ _ indistinct => indistinct.fileOf_eq
  respelled := fun _ _ _ _ absolute absolute' comparable outside outside' same =>
    ModuleSpecifier.indistinct_of_fileOf_eq absolute absolute' comparable outside outside' same
  settled := fun _ _ _ _ indistinct settled =>
    indistinct.eq_of_isCanonical (settled.canonical indistinct.absolute)
      (settled.canonical' indistinct.absolute')
      (settled.drives indistinct.absolute indistinct.absolute')
  spelled := fun _ listed _ mentioned imported =>
    run.importsFrom_of_mention listed mentioned imported

end Run

end Generation

/-- **Files are imported once.** In a document that generation makes, every source of types has one
statement. The statements have different modules exactly if no two sources are absolute paths that a
specifier does not tell apart, and then a symbol of a module has one name. Such paths are spellings
of one file, and canonical sources are none. -/
theorem files_imported_once {config : BuildConfig} {registry : Registry}
    {document : GeneratedDocument} (generated : generate config registry = .ok document) :
    ∃ run : Generation.Run config registry, run.document = document ∧ run.ImportsOnce := by
  obtain ⟨run, same⟩ := generate_eq_ok_iff.mp generated
  exact ⟨run, same, run.importsOnce⟩

namespace Generation

/-- What the statements of a run import: the module, and the names that are bound. -/
def Run.modules {config : BuildConfig} {registry : Registry} (run : Run config registry) :
    List (String × List String) :=
  run.imports.map fun statement => (statement.module, statement.boundNames)

theorem Run.map_module_eq {config : BuildConfig} {registry : Registry}
    (run : Run config registry) :
    run.imports.map ImportStatement.module = run.modules.map Prod.fst := by
  rw [Run.modules, List.map_map]
  rfl

/-- The modules of a run can be computed from the requests of the components. -/
theorem Run.modules_eq {config : BuildConfig} {registry : Registry} (run : Run config registry) :
    (typeImports config.sourceRoot
        (ImportScope.empty.serveAll (requests registry.ordered))).toOption.map
      (fun imports => imports.map fun statement => (statement.module, statement.boundNames)) =
        some run.modules := by
  rw [← run.scope_eq, run.imports_eq]
  rfl

/-- A component with one member, whose type is made of imported types. -/
def importingComponent (tag sourcePath : String) (references : List TypeReference) : Component :=
  { tagName := tag
    className := "Element"
    members := OrderedMap.ofList [("item", ⟨.property, some ⟨"Item", references⟩⟩)]
    sourcePath }

/-- A project on a drive. Its components reach one file by a relative path, by its own path and by
an absolute path, and they use a package. -/
def driveRegistry : Registry :=
  ((Registry.empty.insert "list" (some (importingComponent "user-list" "C:\\app\\src\\list.tsx"
      [⟨"User", .module, some "./types.ts"⟩]))).insert
    "page" (some (importingComponent "user-page" "C:\\app\\src\\page.tsx"
      [⟨"User", .module, some "c:/app/src/types"⟩, ⟨"Theme", .module, some "ui-kit"⟩]))).insert
    "types" (some (importingComponent "user-types" "c:/app/src/types.tsx"
      [⟨"Kind", .ownFile, none⟩]))

/-- A project whose components reach one file by a relative path and by an absolute path that is
written with the extension. -/
def extensionRegistry : Registry :=
  (Registry.empty.insert "list" (some (importingComponent "user-list" "/app/list.tsx"
      [⟨"User", .module, some "./types"⟩]))).insert
    "page" (some (importingComponent "user-page" "/app/page.tsx"
      [⟨"User", .module, some "/app/types.ts"⟩]))

theorem ordered_driveRegistry :
    driveRegistry.ordered = driveRegistry.present.map Prod.snd :=
  Registry.ordered_of_sorted (by decide)

theorem ordered_extensionRegistry :
    extensionRegistry.ordered = extensionRegistry.present.map Prod.snd :=
  Registry.ordered_of_sorted (by decide)

end Generation

/-- The file that is reached in three ways is imported once. -/
theorem files_imported_once_of_drive :
    ∃ run : Generation.Run { sourceRoot := "C:\\app\\src" } Generation.driveRegistry,
      run.ImportsOnce ∧ run.Separate ∧
        run.modules = [("./types", ["User", "Kind"]), ("ui-kit", ["Theme"])] := by
  obtain ⟨document, generated⟩ : ∃ document,
      generate { sourceRoot := "C:\\app\\src" } Generation.driveRegistry = .ok document := by
    rw [exists_document_iff]
    exact Generation.nonempty_run Generation.ordered_driveRegistry (by decide +kernel)
  obtain ⟨run, -, once⟩ := files_imported_once generated
  have modules := run.modules_eq
  rw [Generation.ordered_driveRegistry] at modules
  have listed : run.modules = [("./types", ["User", "Kind"]), ("ui-kit", ["Theme"])] := by
    refine Option.some.inj (modules.symm.trans ?_)
    decide +kernel
  refine ⟨run, once, once.modules.mp ?_, listed⟩
  rw [run.map_module_eq, listed]
  decide

/-- **A file that is imported twice.** An absolute path that is written with its extension and a
relative path to the same file are two sources of one module: `User` is bound twice. -/
theorem absolute_path_imported_again :
    (∃ document, generate { sourceRoot := "/app" } Generation.extensionRegistry = .ok document) ∧
      ∀ run : Generation.Run { sourceRoot := "/app" } Generation.extensionRegistry,
        run.sources = ["/app/types", "/app/types.ts"] ∧
          run.modules = [("./types", ["User"]), ("./types", ["User2"])] ∧
          ¬ (run.imports.map ImportStatement.module).Nodup := by
  refine ⟨?_, fun run => ?_⟩
  · rw [exists_document_iff]
    exact Generation.nonempty_run Generation.ordered_extensionRegistry (by decide +kernel)
  · have modules := run.modules_eq
    rw [Generation.ordered_extensionRegistry] at modules
    have listed : run.modules = [("./types", ["User"]), ("./types", ["User2"])] := by
      refine Option.some.inj (modules.symm.trans ?_)
      decide +kernel
    refine ⟨?_, listed, ?_⟩
    · rw [Generation.Run.sources, run.scope_eq, Generation.ordered_extensionRegistry]
      decide +kernel
    · rw [run.map_module_eq, listed]
      decide

end ElementTypings
