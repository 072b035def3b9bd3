import ElementTypings.Proofs.Generation.Run

/-!
# Ambient names and the names of a document

A document relies on names that it does not declare: those of the ambient types that its components
mention, and those of the interfaces that every element and every attributes interface extends. A
name that the document binds itself hides the ambient one.

Nothing keeps such names free. A run binds exactly the class aliases, the names of the types that
are imported, and the suffixed names that collisions make (`Generation.Run.binds_iff`), so ambient
names stay ambient exactly if they are none of these (`ambient_names_unbound_iff`). An import of
another component is enough to hide a name (`ambient_name_hidden_by_import`).
-/

namespace ElementTypings

namespace Generation

/-- The names that the declarations of components take from their surroundings: the bases of the
interfaces, and the ambient types that observable members mention. -/
def ambientNames (components : List Component) : List String :=
  [ComponentBlock.baseElement, ComponentBlock.baseAttributes] ++
    components.flatMap fun component =>
      (component.mentions.filter fun mention => mention.2.location = .global).map
        fun mention => mention.2.name

namespace Run

variable {config : BuildConfig} {registry : Registry}

/-- The document binds the name, by a type import or as a class alias. -/
def Binds (run : Run config registry) (name : String) : Prop :=
  name ∈ run.importedNames ∨
    ∃ component ∈ registry.ordered, TagName.pascalCase component.tagName = name

/-- The names that a document binds are the names that its scope has taken in the end. -/
theorem binds_iff_mem_taken (run : Run config registry) (name : String) :
    run.Binds name ↔ name ∈ run.scope.taken := by
  unfold Binds
  rw [run.importedNames_eq]
  constructor
  · rintro (imported | ⟨component, listed, rfl⟩)
    · obtain ⟨binding, member, rfl⟩ := List.mem_map.mp imported
      exact run.consistent.bound_taken binding member
    · rw [run.scope_eq, ImportScope.mem_taken_serveAll_empty, ImportScope.mem_namesUsed_iff]
      exact Or.inl (reserve_mem_requests_iff.mpr ⟨component, listed, rfl⟩)
  · intro taken
    rw [run.scope_eq, ImportScope.mem_taken_serveAll_empty, ImportScope.mem_namesUsed_iff,
      ← run.scope_eq] at taken
    rcases taken with reserved | ⟨source, symbol, -, known⟩
    · exact Or.inr (reserve_mem_requests_iff.mp reserved)
    · refine Or.inl (List.mem_map.mpr ⟨{ name := symbol, bound := name }, ?_, rfl⟩)
      exact run.consistent.mem_bindings_iff_boundName?.mpr ⟨source, known⟩

/-- A document binds the class aliases, the names of the types that are imported, and the names that
collisions made; no other. -/
theorem binds_iff (run : Run config registry) (name : String) :
    run.Binds name ↔
      (∃ component ∈ registry.ordered, TagName.pascalCase component.tagName = name) ∨
      (∃ component ∈ registry.ordered, ∃ mention ∈ component.mentions,
        mention.2.location ≠ .global ∧ mention.2.name = name) ∨
      ∃ binding ∈ run.scope.bindings, binding.isRenamed ∧ binding.bound = name := by
  constructor
  · rintro (imported | aliased)
    · rw [run.importedNames_eq] at imported
      obtain ⟨binding, member, rfl⟩ := List.mem_map.mp imported
      by_cases renamed : binding.isRenamed
      · exact Or.inr (Or.inr ⟨binding, member, renamed, rfl⟩)
      · have own : binding.name = binding.bound := by
          simpa [ImportBinding.isRenamed] using renamed
        obtain ⟨source, known⟩ := run.consistent.mem_bindings_iff_boundName?.mp member
        have asked : ScopeRequest.bind source binding.name ∈ requests registry.ordered := by
          have present : (run.scope.boundName? source binding.name).isSome := by
            rw [known, Option.isSome_some]
          rw [run.scope_eq, ImportScope.isSome_boundName?_serveAll] at present
          rcases present with impossible | asked
          · cases impossible
          · exact asked
        obtain ⟨component, listed, mention, mentioned, found, named⟩ :=
          bind_mem_requests_iff.mp asked
        refine Or.inr (Or.inl ⟨component, listed, mention, mentioned, ?_, named.trans own⟩)
        intro ambient
        rw [Resolution.importSource?, Resolution.source?, ambient] at found
        cases found
    · exact Or.inl aliased
  · rintro (aliased | ⟨component, listed, mention, mentioned, imported, rfl⟩ |
      ⟨binding, member, -, rfl⟩)
    · exact Or.inr aliased
    · -- The name was taken when it was asked for, or its symbol took it then.
      obtain ⟨source, bound, -, known⟩ := run.bound_of_mention listed mentioned imported
      have held : { name := mention.2.name, bound } ∈ run.scope.bindings :=
        run.consistent.mem_bindings_iff_boundName?.mpr ⟨source, known⟩
      rw [run.binds_iff_mem_taken]
      exact run.consistent.name_taken _ held
    · refine Or.inl ?_
      rw [run.importedNames_eq]
      exact List.mem_map.mpr ⟨binding, member, rfl⟩

end Run

end Generation

/-- **When ambient names stay ambient.** In a document that generation makes, neither a type import
nor a class alias binds an ambient name exactly if no ambient name is a class alias, the name of a
type that some component imports, or a name to which a collision renamed an import. -/
theorem ambient_names_unbound_iff {config : BuildConfig} {registry : Registry}
    {document : GeneratedDocument} (generated : generate config registry = .ok document) :
    ∃ run : Generation.Run config registry, run.document = document ∧
      ((∀ name ∈ Generation.ambientNames registry.ordered, ¬ run.Binds name) ↔
        ∀ name ∈ Generation.ambientNames registry.ordered,
          (∀ component ∈ registry.ordered, TagName.pascalCase component.tagName ≠ name ∧
            ∀ mention ∈ component.mentions,
              mention.2.location ≠ .global → mention.2.name ≠ name) ∧
          ∀ binding ∈ run.scope.bindings, binding.isRenamed → binding.bound ≠ name) := by
  obtain ⟨run, same⟩ := generate_eq_ok_iff.mp generated
  refine ⟨run, same, forall₂_congr fun name _ => ?_⟩
  rw [run.binds_iff, not_or, not_or]
  constructor
  · rintro ⟨noAlias, noImport, noRenaming⟩
    refine ⟨fun component listed => ⟨fun aliased => ?_, ?_⟩, ?_⟩
    · exact noAlias ⟨component, listed, aliased⟩
    · intro mention mentioned imported named
      exact noImport ⟨component, listed, mention, mentioned, imported, named⟩
    · intro binding member renamed bound
      exact noRenaming ⟨binding, member, renamed, bound⟩
  · rintro ⟨unnamed, unrenamed⟩
    refine ⟨?_, ?_, ?_⟩
    · rintro ⟨component, listed, aliased⟩
      exact (unnamed component listed).1 aliased
    · rintro ⟨component, listed, mention, mentioned, imported, named⟩
      exact (unnamed component listed).2 mention mentioned imported named
    · rintro ⟨binding, member, renamed, bound⟩
      exact unrenamed binding member renamed bound

/-- The condition holds in the project in which other names collide. -/
theorem ambient_names_unbound_of_collision :
    ∃ run : Generation.Run Generation.collidingConfig Generation.collidingRegistry,
      generate Generation.collidingConfig Generation.collidingRegistry = .ok run.document ∧
      ∀ name ∈ ["HTMLElement", "HTMLAttributes", "Date"], ¬ run.Binds name := by
  obtain ⟨first⟩ := Generation.nonempty_collidingRun
  obtain ⟨run, -, unbound⟩ := ambient_names_unbound_iff (generate_eq_ok_iff.mpr ⟨first, rfl⟩)
  have names : Generation.ambientNames Generation.collidingRegistry.ordered =
      ["HTMLElement", "HTMLAttributes", "Date"] := by
    rw [Generation.ordered_collidingRegistry]
    rfl
  have scope := run.scope_eq
  rw [names, scope, Generation.ordered_collidingRegistry] at unbound
  exact ⟨run, generate_eq_ok_iff.mpr ⟨run, rfl⟩, unbound.mpr (by decide +kernel)⟩

namespace Generation

/-- A registry in which one component has a member of the ambient type `Date`, and another one
imports a type of that name. -/
def hidingRegistry : Registry :=
  (Registry.empty.insert "/app/clock.tsx"
      (some
        { tagName := "x-clock"
          className := "Clock"
          members := OrderedMap.ofList
            [("time", ⟨.property, some ⟨"Date", [⟨"Date", .global, none⟩]⟩⟩)]
          sourcePath := "/app/clock.tsx" })).insert "/app/diary.tsx"
    (some
      { tagName := "x-diary"
        className := "Diary"
        members := OrderedMap.ofList
          [("day", ⟨.property, some ⟨"Date", [⟨"Date", .module, some "./date"⟩]⟩⟩)]
        sourcePath := "/app/diary.tsx" })

theorem ordered_hidingRegistry :
    hidingRegistry.ordered = hidingRegistry.present.map Prod.snd := by
  have sorted : hidingRegistry.present.Pairwise fun left right => decide (left.1 ≤ right.1) := by
    decide
  rw [Registry.ordered, List.mergeSort_of_pairwise sorted]

end Generation

/-- **An import hides an ambient type.** The document binds the name `Date`, which a component
mentions as an ambient type. -/
theorem ambient_name_hidden_by_import :
    (∃ document, generate { sourceRoot := "/app" } Generation.hidingRegistry = .ok document) ∧
      "Date" ∈ Generation.ambientNames Generation.hidingRegistry.ordered ∧
      ∀ run : Generation.Run { sourceRoot := "/app" } Generation.hidingRegistry,
        run.importedNames = ["Date"] ∧ run.Binds "Date" := by
  refine ⟨?_, ?_, fun run => ?_⟩
  · obtain ⟨run⟩ : Nonempty (Generation.Run { sourceRoot := "/app" } Generation.hidingRegistry) :=
      Generation.nonempty_run Generation.ordered_hidingRegistry (by decide +kernel)
    exact ⟨run.document, generate_eq_ok_iff.mpr ⟨run, rfl⟩⟩
  · rw [Generation.ordered_hidingRegistry]
    decide
  · have names : run.importedNames = ["Date"] := by
      rw [run.importedNames_eq, run.scope_eq, Generation.ordered_hidingRegistry]
      decide +kernel
    refine ⟨names, Or.inl ?_⟩
    rw [names]
    exact List.mem_singleton_self "Date"

end ElementTypings
