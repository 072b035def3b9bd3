import ElementTypings.Proofs.Declaration.Literals
import ElementTypings.Proofs.Declaration.Sections
import ElementTypings.Proofs.Generation.ImportOrder

/-!
# What a generated document contains

The content of a document is the header comment, the collections of the configuration, the type
imports and the block of every component, each of them as it would be written alone, with one blank
line between every two (`sections_joined_by_blank_lines`). This is so for every document whose
blocks have a line, and the block of a component always has one.
-/

namespace ElementTypings

/-- The statement lists names, at least one, each on a line of its own. -/
structure ImportStatement.IsListing (statement : ImportStatement) : Prop where
  some : statement.specifiers ≠ []
  text_eq : (Declaration.importStatement statement).text =
    "import \x7b\n" ++
      String.join (statement.specifiers.map fun specifier => "  " ++ specifier.text ++ ",\n") ++
      "\x7d from '" ++ statement.module ++ "';\n"

/-- A statement of several lines lists its names. -/
theorem ImportStatement.isListing {statement : ImportStatement} (some : statement.specifiers ≠ [])
    (multiline : statement.multiline) : statement.IsListing := by
  refine ⟨some, ?_⟩
  rw [text_eq, opening, if_neg (by simpa using some), if_pos multiline]
  simp only [String.append_assoc]
  rfl

/-- An import for its effect is one line with the module. -/
theorem ImportStatement.text_sideEffect (module : String) :
    (Declaration.importStatement (sideEffect module)).text = "import '" ++ module ++ "';\n" := by
  rw [text_eq]
  rfl

/-- The text stands somewhere in the content. -/
def Shows (content text : String) : Prop :=
  text.toList <:+: content.toList

namespace Shows

variable {content part text : String} {parts : List String}

/-- What a part shows is shown by the whole. -/
theorem trans (shown : Shows content part) (within : Shows part text) : Shows content text :=
  List.IsInfix.trans within shown

/-- Texts that are written one after another show each of them. -/
theorem join (listed : text ∈ parts) : Shows (String.join parts) text := by
  rw [Shows, String.toList_join, List.flatMap_def]
  exact List.infix_of_mem_flatten (List.mem_map_of_mem listed)

/-- So do texts between which a separator stands. -/
theorem intercalate (separator : String) (listed : text ∈ parts) :
    Shows (separator.intercalate parts) text := by
  cases parts with
  | nil => exact (List.not_mem_nil listed).elim
  | cons first later =>
      rw [Shows, Document.intercalate_cons_eq, String.toList_append]
      rcases List.mem_cons.mp listed with rfl | listed
      · exact (List.prefix_append _ _).isInfix
      · have behind : Shows (String.join (later.map fun text => separator ++ text))
            (separator ++ text) := join (List.mem_map_of_mem listed)
        have itself : Shows (separator ++ text) text := by
          rw [Shows, String.toList_append]
          exact (List.suffix_append _ _).isInfix
        exact List.IsInfix.trans (behind.trans itself) (List.suffix_append _ _).isInfix

end Shows

namespace ComponentBlock

/-- The block of a component has a line. -/
theorem allLinesAt_fragments_ne_nil (block : ComponentBlock) (depth : Nat) :
    Fragment.allLinesAt depth block.fragments ≠ [] := by
  rw [fragments, Fragment.allLinesAt_append, Fragment.allLinesAt_append]
  simp [Fragment.allLinesAt, Fragment.linesAt]

/-- So it has a text, whatever the indentation. -/
theorem render_ne_empty (block : ComponentBlock) (indent : Indent) :
    Fragment.render indent block.fragments ≠ "" :=
  block.allLinesAt_fragments_ne_nil 0 ∘ (Fragment.render_eq_empty_iff indent).mp

end ComponentBlock

namespace Generation.Run

variable {config : BuildConfig} {registry : Registry}

/-- The texts that the content of a document consists of. -/
def texts (run : Run config registry) : List String :=
  Fragment.render .standard [.comment header] ::
    (config.collections.map (fun name => "import '" ++ name ++ "';\n") ++
      (if run.imports = [] then []
        else [String.join (run.imports.map fun statement =>
          (Declaration.importStatement statement).text)]) ++
      run.blocks.map ComponentBlock.text)

/-- The sections of the document have these texts. -/
theorem texts_document (run : Run config registry) :
    (Generation.document config run.imports run.blocks).texts .standard = run.texts := by
  have collections : (config.collections.map ImportStatement.sideEffect).map
      (fun statement => Fragment.render .standard statement.fragments) =
        config.collections.map fun name => "import '" ++ name ++ "';\n" := by
    rw [List.map_map]
    exact List.map_congr_left fun name _ => ImportStatement.text_sideEffect name
  unfold Document.texts Generation.document texts
  dsimp only
  rw [collections, List.map_map]
  rfl

/-- The content of a document consists of the texts of its parts. -/
theorem content_eq (run : Run config registry) :
    run.document.content = "\n".intercalate run.texts := by
  rw [← run.texts_document]
  refine Document.render_eq fun code listed => ?_
  obtain ⟨block, -, rfl⟩ := List.mem_map.mp listed
  exact block.render_ne_empty _

/-- Every import of types lists a name at least. -/
theorem isListing_of_mem_imports (run : Run config registry) :
    ∀ statement ∈ run.imports, statement.IsListing := by
  intro statement written
  obtain ⟨⟨source, group⟩, listed, made⟩ := exists_of_forall₂ run.importsOf.flip written
  obtain ⟨-, specifiers, multiline⟩ := typeImport_eq_ok_iff.mp made
  have found : run.scope.group? source = some group := OrderedMap.lookup?_eq_some_iff.mpr listed
  refine ImportStatement.isListing ?_ multiline
  rw [specifiers, Ne, List.map_eq_nil_iff]
  exact run.consistent.group_ne_nil found

/-- The content shows every import statement. -/
theorem shows_of_mem_imports (run : Run config registry) :
    ∀ statement ∈ run.imports,
      Shows run.document.content (Declaration.importStatement statement).text := by
  intro statement written
  have some : run.imports ≠ [] := List.ne_nil_of_mem written
  have joined : String.join (run.imports.map fun statement =>
      (Declaration.importStatement statement).text) ∈ run.texts := by
    rw [texts, if_neg some]
    simp
  rw [run.content_eq]
  exact (Shows.intercalate "\n" joined).trans (Shows.join (List.mem_map_of_mem written))

/-- The content shows every block. -/
theorem shows_of_mem_blocks (run : Run config registry) :
    ∀ block ∈ run.blocks, Shows run.document.content block.text := by
  intro block made
  have listed : block.text ∈ run.texts :=
    List.mem_cons_of_mem _ (List.mem_append_right _ (List.mem_map_of_mem made))
  rw [run.content_eq]
  exact Shows.intercalate "\n" listed

end Generation.Run

/-- **Sections are joined by blank lines.** A document whose blocks all have a text is written as
the texts of its parts, each of them as it is written alone: the header comment if it has lines,
every collection, all type imports together if there are any, and every block. Each consists of
whole lines, and one blank line stands between every two of them. Only a document without parts has
no text. The blocks of components have a text, so that the content of every document that generation
makes is written in this way, with the imports of the groups and the blocks of the components in
their orders. -/
theorem sections_joined_by_blank_lines :
    (∀ (document : Document) (indent : Indent),
      (∀ block ∈ document.blocks, Fragment.render indent block ≠ "") →
        document.render indent = "\n".intercalate (document.texts indent) ∧
          (∀ text ∈ document.texts indent, ∃ body, text = body ++ "\n") ∧
          (document.render indent = "" ↔ document.isEmpty)) ∧
      (∀ (block : ComponentBlock) (indent : Indent),
        Fragment.render indent block.fragments ≠ "") ∧
      ∀ config registry document, generate config registry = .ok document →
        ∃ run : Generation.Run config registry, run.document = document ∧
          document.content = "\n".intercalate run.texts ∧
          List.Forall₂ (fun group statement =>
              Generation.typeImport config.sourceRoot group = .ok statement)
            run.scope.groups.entries run.imports ∧
          run.scope.listing = firstUses (registry.ordered.flatMap Component.uses) ∧
          List.Forall₂ (Generation.BlockOf config.sourceRoot run.scope) registry.ordered
            run.blocks := by
  refine ⟨fun document indent full => ?_, ComponentBlock.render_ne_empty, ?_⟩
  · exact ⟨Document.render_eq full, Document.exists_line_of_mem_texts full,
      Document.render_eq_empty_iff full⟩
  · intro config registry document generated
    obtain ⟨run, rfl⟩ := generate_eq_ok_iff.mp generated
    exact ⟨run, rfl, run.content_eq, run.importsOf, run.resolves.holdsUses.listing, run.blocksOf⟩

/-- A document without header and type imports, one of whose blocks is an empty line. -/
def sparseDocument : Document :=
  { header := []
    collections := [.sideEffect "@ui/core"]
    imports := []
    blocks := [[.braced "interface B \x7b" [.line "x: A;"]], [.blank]] }

/-- The sections are joined where some are missing, and in the project in which names collide. -/
theorem sections_joined_by_blank_lines_of_sparse :
    (∀ block ∈ sparseDocument.blocks, Fragment.render .tab block ≠ "") ∧
      sparseDocument.render .tab =
        "import '@ui/core';\n\ninterface B \x7b\n\tx: A;\n\x7d\n\n\n" ∧
      ∃ run : Generation.Run Generation.collidingConfig Generation.collidingRegistry,
        generate Generation.collidingConfig Generation.collidingRegistry = .ok run.document ∧
        run.document.content = "\n".intercalate run.texts := by
  have full : ∀ block ∈ sparseDocument.blocks, Fragment.render .tab block ≠ "" := by decide
  obtain ⟨first⟩ := Generation.nonempty_collidingRun
  obtain ⟨run, same, content, -⟩ :=
    sections_joined_by_blank_lines.2.2 _ _ _ (generate_eq_ok_iff.mpr ⟨first, rfl⟩)
  refine ⟨full, ?_, run, generate_eq_ok_iff.mpr ⟨run, rfl⟩, same ▸ content⟩
  rw [(sections_joined_by_blank_lines.1 sparseDocument .tab full).1]
  decide +kernel

end ElementTypings
