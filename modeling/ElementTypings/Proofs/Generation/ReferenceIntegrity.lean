import ElementTypings.Proofs.Generation.Contents

/-!
# The integrity of references

A component's block is made before later components have bound their names. The text of an
attribute's type stays right nevertheless: every name that it mentions stands for the symbol that
the document imports under that name (`references_keep_symbols`). Blocks and import statements are
parts of what the document says: its content is put together from their texts.
-/

namespace ElementTypings

/-- A specifier shows the bound name where it differs from the symbol's own. -/
theorem ImportSpecifier.text_binding (name bound : String) :
    (ImportSpecifier.binding name bound).text =
      if bound = name then name else name ++ " as " ++ bound := by
  unfold text binding
  by_cases same : bound = name
  · simp [same]
  · simp [same]

namespace Generation

/-- The attribute declares the member: it has the member's name, and its type is the member's type
in which a name is called as the scope calls the symbol that the last reference to the name
imports. -/
structure AttributeOf (scope : ImportScope) (component : Component) (entry : String × Member)
    (declared : AttributeEntry) : Prop where
  named : declared.name = entry.1
  typed : ∃ type bindings, entry.2.type = some type ∧
    declared.type = TypeText.rename type.text bindings ∧
    ∀ name, bindings.lookup? name =
      (Resolution.lastSource? component entry.1 type.references name).bind
        fun source => scope.boundName? source name

/-- The reference is imported: its source is known, the scope has bound its symbol, and a statement
for the source lists the symbol's name with the name that it is bound to. -/
def Imported (sourceRoot : String) (scope : ImportScope) (imports : List ImportStatement)
    (component : Component) (member : String) (reference : TypeReference) : Prop :=
  ∃ source bound, Resolution.source? component member reference = .ok (some source) ∧
    scope.boundName? source reference.name = some bound ∧
    ∃ statement ∈ imports, ModuleSpecifier.ofSource sourceRoot source = .ok statement.module ∧
      ∃ specifier ∈ statement.specifiers, specifier.boundName = bound ∧
        specifier.text = if bound = reference.name then reference.name
          else reference.name ++ " as " ++ bound

/-- The attributes of a block are the observable members of its component, in order, and they speak
of symbols as the final scope does. -/
theorem BlockOf.attributesOf {sourceRoot : String} {final : ImportScope} {component : Component}
    {block : ComponentBlock} (made : BlockOf sourceRoot final component block) :
    List.Forall₂ (AttributeOf final component) component.observableMembers block.attributes := by
  obtain ⟨resolution, kept, -, synthesized⟩ := made
  obtain ⟨attributes, entries, same⟩ := bind_eq_ok_iff.mp synthesized
  cases same
  refine forall₂_imp_of_mem (mapM_eq_ok_iff.mp entries) ?_
  rintro ⟨name, member⟩ observed declared shown
  unfold ComponentBlock.attributeEntry at shown
  cases typed : member.type with
  | none => simp [typed] at shown
  | some type =>
      obtain ⟨bindings, found, names⟩ :=
        Resolution.component_lookup? resolution kept observed typed
      simp only [typed, found, Except.ok.injEq] at shown
      subst shown
      exact ⟨rfl, type, bindings, typed, rfl, names⟩

/-- The block of a component has its tag. -/
theorem BlockOf.tagName_eq {sourceRoot : String} {final : ImportScope} {component : Component}
    {block : ComponentBlock} (made : BlockOf sourceRoot final component block) :
    block.tagName = component.tagName := by
  obtain ⟨-, -, -, synthesized⟩ := made
  obtain ⟨attributes, -, same⟩ := bind_eq_ok_iff.mp synthesized
  cases same
  rfl

/-- Every mention that is not ambient is imported by a statement of the document. -/
theorem Run.imported_of_mention {config : BuildConfig} {registry : Registry}
    (run : Run config registry) {component : Component} (listed : component ∈ registry.ordered)
    {member : String} {reference : TypeReference}
    (mentioned : (member, reference) ∈ component.mentions)
    (imported : reference.location ≠ .global) :
    Imported config.sourceRoot run.scope run.imports component member reference := by
  obtain ⟨source, bound, found, known⟩ := run.bound_of_mention listed mentioned imported
  obtain ⟨statement, written, located, specified⟩ := run.statement_of_bound known
  exact ⟨source, bound, found, known, statement, written, located, _, specified,
    ImportSpecifier.boundName_binding _ _, ImportSpecifier.text_binding _ _⟩

end Generation

/-- **References keep their symbols.** The content of a document that generation makes is put
together from its parts; it shows every import statement, which lists its names line by line, and
every block. The attributes of the block of every component are its observable members, in order;
the type of each is the member's type under the names that the scope has bound at the end of the
run; and every type that is mentioned, unless it is ambient, is imported under its bound name from
the module of its source. -/
theorem references_keep_symbols {config : BuildConfig} {registry : Registry}
    {document : GeneratedDocument} (generated : generate config registry = .ok document) :
    ∃ run : Generation.Run config registry, run.document = document ∧
      document.content = "\n".intercalate run.texts ∧
      (∀ statement ∈ run.imports, statement.IsListing ∧
        Shows document.content (Declaration.importStatement statement).text) ∧
      (∀ block ∈ run.blocks, Shows document.content block.text) ∧
      List.Forall₂ (fun component block =>
          block.tagName = component.tagName ∧
          List.Forall₂ (Generation.AttributeOf run.scope component) component.observableMembers
            block.attributes ∧
          ∀ member reference, (member, reference) ∈ component.mentions →
            reference.location ≠ .global →
            Generation.Imported config.sourceRoot run.scope run.imports component member reference)
        registry.ordered run.blocks := by
  obtain ⟨run, rfl⟩ := generate_eq_ok_iff.mp generated
  refine ⟨run, rfl, run.content_eq, fun statement written => ⟨?_, ?_⟩, run.shows_of_mem_blocks,
    forall₂_imp_of_mem run.blocksOf ?_⟩
  · exact run.isListing_of_mem_imports statement written
  · exact run.shows_of_mem_imports statement written
  · intro component listed block made
    exact ⟨made.tagName_eq, made.attributesOf, fun member reference mentioned imported =>
      run.imported_of_mention listed mentioned imported⟩

/-- References keep their symbols where one member refers to two symbols of one name. -/
theorem references_keep_symbols_of_collision :
    ∃ document,
      generate Generation.collidingConfig Generation.collidingRegistry = .ok document ∧
      ∃ run : Generation.Run Generation.collidingConfig Generation.collidingRegistry,
        run.document = document ∧
        document.content = "\n".intercalate run.texts ∧
        (∀ statement ∈ run.imports, statement.IsListing ∧
          Shows document.content (Declaration.importStatement statement).text) ∧
        (∀ block ∈ run.blocks, Shows document.content block.text) ∧
        run.scope.boundName? "/app/src/lib/one" "Foo" = some "Foo" ∧
        run.scope.boundName? "/app/src/lib/two" "Foo" = some "Foo3" ∧
        List.Forall₂ (fun component block =>
            block.tagName = component.tagName ∧
            List.Forall₂ (Generation.AttributeOf run.scope component) component.observableMembers
              block.attributes ∧
            ∀ member reference, (member, reference) ∈ component.mentions →
              reference.location ≠ .global →
              Generation.Imported "/app/src" run.scope run.imports component member reference)
          [Generation.firstColliding, Generation.secondColliding] run.blocks := by
  obtain ⟨first⟩ := Generation.nonempty_collidingRun
  have generated := generate_eq_ok_iff.mpr ⟨first, rfl⟩
  obtain ⟨run, same, content, statements, blocks, holds⟩ := references_keep_symbols generated
  rw [Generation.ordered_collidingRegistry] at holds
  refine ⟨first.document, generated, run, same, content, statements, blocks, ?_, ?_, holds⟩
  · rw [run.scope_eq, Generation.ordered_collidingRegistry]
    decide +kernel
  · rw [run.scope_eq, Generation.ordered_collidingRegistry]
    decide +kernel

end ElementTypings
