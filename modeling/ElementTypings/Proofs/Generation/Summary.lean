import ElementTypings.Proofs.Generation.Contents
import ElementTypings.Proofs.Generation.Faults
import ElementTypings.Proofs.Generation.ReferenceIntegrity
import ElementTypings.Report

/-!
# The numbers of a run

The numbers of a run are taken from the scope in which the run bound its names. They are the numbers
of what the document says: its import statements, the names that these list, and among the names
those that are printed with the other name that they are bound to
(`summary_describes_document`). No import of types is one that lists nothing. A check succeeds and
fails as generation does, and reports the same.
-/

namespace ElementTypings

namespace ImportSpecifier

variable {specifier : ImportSpecifier}

/-- The specifier is printed with another name that it is bound to. -/
def IsAliased (specifier : ImportSpecifier) : Prop :=
  ∃ bound, specifier.text = specifier.name ++ " as " ++ bound

/-- A specifier prints another name exactly if it has a local one. -/
theorem isAliased_iff : specifier.IsAliased ↔ specifier.localName.isSome := by
  unfold IsAliased text
  cases specifier.localName with
  | some bound => exact iff_of_true ⟨bound, rfl⟩ rfl
  | none =>
      refine iff_of_false ?_ nofun
      rintro ⟨bound, same⟩
      have longer := congrArg String.length same
      simp only [String.length_append] at longer
      have clause : " as ".length = 4 := rfl
      omega

instance : DecidablePred IsAliased :=
  fun _ => decidable_of_iff _ isAliased_iff.symm

/-- A specifier that is made for a binding does so exactly if the bound name differs. -/
theorem isAliased_binding_iff {name bound : String} :
    (binding name bound).IsAliased ↔ name ≠ bound := by
  rw [isAliased_iff, binding]
  by_cases same : bound = name
  · simp [same]
  · simp [same, Ne.symm same]

end ImportSpecifier

/-- The numbers are those of the import statements and of the blocks. -/
structure GenerationSummary.Describes (summary : GenerationSummary)
    (imports : List ImportStatement) (blocks : List ComponentBlock) : Prop where
  components : summary.components = blocks.length
  importGroups : summary.importGroups = imports.length
  bindings : summary.bindings = (imports.flatMap ImportStatement.specifiers).length
  renamed : summary.renamed =
    (imports.flatMap ImportStatement.specifiers).countP fun specifier => specifier.IsAliased

namespace Generation.Run

variable {config : BuildConfig} {registry : Registry}

/-- The import statements list the bindings of the scope, in order. -/
theorem specifiers_imports (run : Run config registry) :
    run.imports.flatMap ImportStatement.specifiers =
      run.scope.bindings.map fun binding => .binding binding.name binding.bound := by
  have listed : run.imports.map ImportStatement.specifiers =
      run.scope.groups.entries.map fun group =>
        group.2.map fun binding => ImportSpecifier.binding binding.name binding.bound :=
    map_eq_of_forall₂ run.importsOf fun _ _ made => (typeImport_eq_ok_iff.mp made).2.1
  rw [List.flatMap_def, listed, ImportScope.bindings, OrderedMap.values, List.map_flatten,
    List.map_map]
  rfl

/-- The numbers of a run are those of its statements and blocks. -/
theorem describes (run : Run config registry) :
    run.document.summary.Describes run.imports run.blocks where
  components := rfl
  importGroups := run.importsOf.length_eq
  bindings := by
    rw [run.specifiers_imports, List.length_map]
    rfl
  renamed := by
    rw [run.specifiers_imports, List.countP_map, document, summary, ← List.countP_eq_length_filter]
    refine List.countP_congr fun binding _ => ?_
    rw [Function.comp_apply, decide_eq_true_iff, ImportSpecifier.isAliased_binding_iff,
      ImportBinding.isRenamed, bne_iff_ne]

/-- A run has a block for every component. -/
theorem length_blocks (run : Run config registry) :
    run.blocks.length = registry.componentCount := by
  rw [← run.blocksOf.length_eq, registry.length_ordered]

/-- The blocks have the tags of the components. -/
theorem tags_eq (run : Run config registry) :
    registry.ordered.map Component.tagName = run.blocks.map ComponentBlock.tagName :=
  (map_eq_of_forall₂ run.blocksOf fun _ _ made => made.tagName_eq).symm

end Generation.Run

namespace CheckReport

variable {config : BuildConfig} {registry : Registry} {configPath : String}

/-- A check reports what generation has made. -/
theorem ofProject_of_ok {document : GeneratedDocument}
    (generated : generate config registry = .ok document) :
    ofProject configPath config registry =
      .ok
        { configPath
          registryPath := config.registry
          outputPath := document.path
          fileCount := registry.size
          tags := registry.ordered.map Component.tagName
          collections := config.collections
          importGroups := document.summary.importGroups } := by
  rw [ofProject, generated]
  rfl

/-- A check fails exactly as generation does. -/
theorem ofProject_eq_error_iff {failure : GenerationFailure} :
    ofProject configPath config registry = .error failure ↔
      generate config registry = .error failure := by
  cases generated : generate config registry with
  | ok document =>
      rw [ofProject_of_ok generated]
      exact iff_of_false nofun nofun
  | error cause =>
      have stopped : ofProject configPath config registry = .error cause := by
        rw [ofProject, generated]
        rfl
      rw [stopped, Except.error.injEq, Except.error.injEq]

end CheckReport

/-- **The numbers describe the document.** Whenever generation succeeds, the content is put together
from the texts of import statements and blocks whose numbers are those of the summary: so many
statements, which list so many names, of which so many are printed with another name; every
statement lists a name; there is a block for every component of the registry. A check succeeds
exactly if generation does and fails with the same failure; it reports as many import statements,
the path of the document, and the tags of the blocks in their order. -/
theorem summary_describes_document (config : BuildConfig) (registry : Registry)
    (configPath : String) :
    (∀ document, generate config registry = .ok document →
      ∃ run : Generation.Run config registry, run.document = document ∧
        document.content = "\n".intercalate run.texts ∧
        document.summary.Describes run.imports run.blocks ∧
        (∀ statement ∈ run.imports, statement.IsListing) ∧
        run.blocks.length = registry.componentCount ∧
        ∃ report, CheckReport.ofProject configPath config registry = .ok report ∧
          report.importGroups = run.imports.length ∧
          report.outputPath = document.path ∧
          report.tags = run.blocks.map ComponentBlock.tagName) ∧
      ((∃ report, CheckReport.ofProject configPath config registry = .ok report) ↔
        ∃ document, generate config registry = .ok document) ∧
      ∀ failure, CheckReport.ofProject configPath config registry = .error failure ↔
        generate config registry = .error failure := by
  refine ⟨fun document generated => ?_, ?_, fun failure => CheckReport.ofProject_eq_error_iff⟩
  · obtain ⟨run, rfl⟩ := generate_eq_ok_iff.mp generated
    exact ⟨run, rfl, run.content_eq, run.describes, run.isListing_of_mem_imports,
      run.length_blocks, _, CheckReport.ofProject_of_ok generated, run.describes.importGroups, rfl,
      run.tags_eq⟩
  · constructor
    · rintro ⟨report, checked⟩
      cases generated : generate config registry with
      | ok document => exact ⟨document, rfl⟩
      | error failure =>
          rw [CheckReport.ofProject_eq_error_iff.mpr generated] at checked
          cases checked
    · rintro ⟨document, generated⟩
      exact ⟨_, CheckReport.ofProject_of_ok generated⟩

/-- In the project in which names collide two modules are imported, each with one name, one of which
is printed with another name; a check reports so. -/
theorem summary_describes_document_of_collision :
    ∃ run : Generation.Run Generation.collidingConfig Generation.collidingRegistry,
      generate Generation.collidingConfig Generation.collidingRegistry = .ok run.document ∧
      run.document.summary.Describes run.imports run.blocks ∧
      run.document.summary =
        { components := 2, collections := 0, importGroups := 2, bindings := 2, renamed := 1 } ∧
      ∃ report,
        CheckReport.ofProject "tagtype.toml" Generation.collidingConfig
          Generation.collidingRegistry = .ok report ∧
        report.tags = run.blocks.map ComponentBlock.tagName ∧
        report.importGroups = run.imports.length := by
  obtain ⟨first⟩ := Generation.nonempty_collidingRun
  obtain ⟨run, same, -, describes, -, counted, report, checked, groups, -, tags⟩ :=
    (summary_describes_document Generation.collidingConfig Generation.collidingRegistry
      "tagtype.toml").1 _ (generate_eq_ok_iff.mpr ⟨first, rfl⟩)
  rw [← same] at describes
  have scope : run.scope = ImportScope.empty.serveAll (Generation.requests
      [Generation.firstColliding, Generation.secondColliding]) := by
    rw [run.scope_eq, Generation.ordered_collidingRegistry]
  refine ⟨run, generate_eq_ok_iff.mpr ⟨run, rfl⟩, describes, ?_, report, checked, tags, groups⟩
  have numbers : run.document.summary =
      Generation.summary Generation.collidingConfig run.scope run.blocks := rfl
  rw [numbers, Generation.summary, counted, scope]
  decide +kernel

end ElementTypings
