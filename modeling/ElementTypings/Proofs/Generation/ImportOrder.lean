import ElementTypings.Proofs.Generation.Run
import ElementTypings.Proofs.ImportScope.FirstUse

/-!
# Which types are imported, and in what order

A component uses the types that its observable members mention, unless they are ambient
(`Component.uses`). Components that are resolved one after another (`Resolution.Resolves`) leave in
the shared scope what they use and nothing else: the sources in the order of their first use, and
under each source the names in the order of theirs (`imports_in_first_use_order`). Neither names
that were reserved before nor other members have any part in it.
-/

namespace ElementTypings

/-- The mentions of a component that are not ambient. -/
def Component.foreignMentions (component : Component) : List (String × TypeReference) :=
  component.mentions.filter fun mention => mention.2.location ≠ .global

/-- The source and the name of every type that the observable members of a component mention and
that is not ambient, in order. -/
def Component.uses (component : Component) : List (String × String) :=
  component.mentions.filterMap fun mention =>
    (Resolution.importSource? component mention.1 mention.2).map fun source =>
      (source, mention.2.name)

namespace Resolution

/-- Components are resolved one after another, none of them fails, and this makes one scope of the
other. -/
inductive Resolves : ImportScope → List Component → ImportScope → Prop
  | none (scope : ImportScope) : Resolves scope [] scope
  | next {scope middle final : ImportScope} {first : Component} {later : List Component}
      {resolved : MemberBindings} (resolution : component scope first = (.ok resolved, middle))
      (others : Resolves middle later final) : Resolves scope (first :: later) final

/-- The use has the name and the source of the mention. -/
def IsUse (component : Component) (mention : String × TypeReference)
    (use : String × String) : Prop :=
  source? component mention.1 mention.2 = .ok (some use.1) ∧ mention.2.name = use.2

/-- An ambient type has no source. -/
theorem source?_global {component : Component} {member : String} {reference : TypeReference}
    (ambient : reference.location = .global) : source? component member reference = .ok none := by
  rw [source?, ambient]

/-- The requests of a component for imports are its uses. -/
theorem imports_requests (component : Component) :
    (requests component).filterMap ScopeRequest.import? = component.uses := by
  unfold requests requestsOf Component.uses
  rw [List.filterMap_filterMap]
  congr 1
  funext mention
  cases importSource? component mention.1 mention.2 with
  | none => rfl
  | some source => rfl

/-- A resolution that succeeds uses every mention that is not ambient, and in order. -/
theorem isUse_of_component {scope later : ImportScope} {component : Component}
    {resolved : MemberBindings}
    (succeeded : Resolution.component scope component = (.ok resolved, later)) :
    List.Forall₂ (IsUse component) component.foreignMentions component.uses := by
  have known : ∀ mention ∈ component.mentions,
      ∃ source, source? component mention.1 mention.2 = .ok source :=
    fun mention mentioned => component_source succeeded mentioned
  unfold Component.foreignMentions Component.uses
  generalize component.mentions = mentions at known ⊢
  induction mentions with
  | nil => exact .nil
  | cons mention rest ih =>
      rw [List.forall_mem_cons] at known
      obtain ⟨⟨origin, found⟩, known⟩ := known
      have others := ih known
      by_cases ambient : mention.2.location = .global
      · simpa [ambient, importSource?, source?_global ambient] using others
      · cases origin with
        | none => exact (ambient (location_of_source?_eq_none found)).elim
        | some source =>
            simp only [ambient, importSource?, found, ne_eq, not_false_eq_true, decide_true,
              List.filter_cons_of_pos, List.filterMap_cons, Option.map_some]
            exact .cons ⟨found, rfl⟩ others

namespace Resolves

variable {scope final : ImportScope} {components : List Component}

/-- Resolving components asks the scope for their imports, one after another. -/
theorem scope_eq (resolves : Resolves scope components final) :
    final = scope.serveAll (components.flatMap requests) := by
  induction resolves with
  | none scope => rfl
  | next resolution others ih =>
      rw [ih, component_scope resolution, List.flatMap_cons, ImportScope.serveAll_append]

/-- The uses of a component that is resolved are its foreign mentions with their sources. -/
theorem isUse (resolves : Resolves scope components final) :
    ∀ component ∈ components,
      List.Forall₂ (IsUse component) component.foreignMentions component.uses := by
  induction resolves with
  | none scope => exact fun _ listed => (List.not_mem_nil listed).elim
  | next resolution others ih =>
      rw [List.forall_mem_cons]
      exact ⟨isUse_of_component resolution, ih⟩

end Resolves

/-- The scope holds what the components use: every mention that is not ambient is a use, the scope
lists the uses as they came first, and it has a binding for each of them. -/
structure HoldsUses (scope : ImportScope) (components : List Component) : Prop where
  isUse : ∀ component ∈ components,
    List.Forall₂ (IsUse component) component.foreignMentions component.uses
  listing : scope.listing = firstUses (components.flatMap Component.uses)
  count : scope.bindings.length = (components.flatMap Component.uses).eraseDups.length

/-- After reserved names, a scope that has resolved components holds their uses and nothing else. -/
theorem Resolves.holdsUses {reserved : List String} {components : List Component}
    {final : ImportScope}
    (resolves : Resolves (ImportScope.empty.serveAll (reserved.map .reserve)) components final) :
    HoldsUses final components := by
  have served : final = ImportScope.empty.serveAll
      (reserved.map .reserve ++ components.flatMap requests) := by
    rw [ImportScope.serveAll_append, ← resolves.scope_eq]
  have asked : (reserved.map ScopeRequest.reserve ++ components.flatMap requests).filterMap
      ScopeRequest.import? = components.flatMap Component.uses := by
    have silent : (reserved.map ScopeRequest.reserve).filterMap ScopeRequest.import? = [] := by
      rw [List.filterMap_map]
      exact List.filterMap_eq_nil_iff.mpr fun _ _ => rfl
    rw [List.filterMap_append, silent, List.nil_append, List.filterMap_flatMap]
    simp only [imports_requests]
  refine ⟨resolves.isUse, ?_, ?_⟩
  · rw [served, ImportScope.listing_serveAll, asked]
  · rw [served, ImportScope.length_bindings_serveAll, asked]

end Resolution

namespace Generation

/-- Making blocks resolves the components one after another. -/
theorem resolves_of_blocks {sourceRoot : String} {scope final : ImportScope}
    {components : List Component} {result : List ComponentBlock}
    (succeeded : blocks sourceRoot scope components = .ok (result, final)) :
    Resolution.Resolves scope components final := by
  induction components generalizing scope result with
  | nil =>
      rw [blocks] at succeeded
      cases succeeded
      exact .none _
  | cons component rest ih =>
      rw [blocks] at succeeded
      obtain ⟨⟨first, middle⟩, made, succeeded⟩ := bind_eq_ok_iff.mp succeeded
      obtain ⟨⟨others, last⟩, madeLater, same⟩ := bind_eq_ok_iff.mp succeeded
      cases same
      unfold block at made
      cases resolution : Resolution.component scope component with
      | mk answer grown =>
          cases answer with
          | error failure => simp [resolution] at made
          | ok resolved =>
              simp only [resolution] at made
              obtain ⟨classModule, -, made⟩ := bind_eq_ok_iff.mp made
              obtain ⟨synthesized, -, same⟩ := bind_eq_ok_iff.mp made
              cases same
              exact .next resolution (ih madeLater)

/-- A run resolves its components in order, after it has reserved their class aliases. -/
theorem Run.resolves {config : BuildConfig} {registry : Registry} (run : Run config registry) :
    Resolution.Resolves (ImportScope.empty.serveAll ((registry.ordered.map fun component =>
      TagName.pascalCase component.tagName).map .reserve)) registry.ordered run.scope := by
  have aliases := resolves_of_blocks run.blocks_eq
  rw [reserveAliases_eq] at aliases
  rw [List.map_map]
  exact aliases

/-- The import statements name what the scope lists. -/
theorem Run.names_imports {config : BuildConfig} {registry : Registry}
    (run : Run config registry) :
    run.imports.map (fun statement => statement.specifiers.map ImportSpecifier.name) =
      run.scope.listing.map Prod.snd := by
  unfold ImportScope.listing
  rw [List.map_map]
  apply map_eq_of_forall₂ run.importsOf
  intro group statement made
  rw [(typeImport_eq_ok_iff.mp made).2.1, List.map_map]
  rfl

end Generation

/-- **Imports in the order of first use.** After any names are reserved, components that are
resolved one after another leave in the scope exactly the sources that they use, in the order of
first use, each with exactly the names that are used of it, in the order of first use; there are as
many bindings as distinct uses. In a document that generation makes, the import statements name what
the components use in that order. -/
theorem imports_in_first_use_order :
    (∀ (reserved : List String) (components : List Component) (final : ImportScope),
      Resolution.Resolves (ImportScope.empty.serveAll (reserved.map .reserve)) components final →
        Resolution.HoldsUses final components) ∧
      ∀ config registry document, generate config registry = .ok document →
        ∃ run : Generation.Run config registry, run.document = document ∧
          Resolution.HoldsUses run.scope registry.ordered ∧
          run.imports.map (fun statement => statement.specifiers.map ImportSpecifier.name) =
            (firstUses (registry.ordered.flatMap Component.uses)).map Prod.snd := by
  refine ⟨fun reserved components final resolves => resolves.holdsUses, ?_⟩
  intro config registry document generated
  obtain ⟨run, same⟩ := generate_eq_ok_iff.mp generated
  have held := run.resolves.holdsUses
  refine ⟨run, same, held, ?_⟩
  rw [run.names_imports, held.listing]

/-- A symbol that two components use is imported once, and the module that is used first comes
first. -/
theorem imports_in_first_use_order_of_collision :
    ∃ final, Resolution.Resolves
        (ImportScope.empty.serveAll (["XFirst", "Foo2"].map .reserve))
        [Generation.firstColliding, Generation.secondColliding] final ∧
      Resolution.HoldsUses final [Generation.firstColliding, Generation.secondColliding] ∧
      final.listing = [("/app/src/lib/one", ["Foo"]), ("/app/src/lib/two", ["Foo"])] ∧
      ∃ run : Generation.Run Generation.collidingConfig Generation.collidingRegistry,
        generate Generation.collidingConfig Generation.collidingRegistry = .ok run.document ∧
        Resolution.HoldsUses run.scope Generation.collidingRegistry.ordered := by
  obtain ⟨first⟩ := Generation.nonempty_collidingRun
  have resolves := first.resolves
  rw [Generation.ordered_collidingRegistry] at resolves
  have held := imports_in_first_use_order.1 ["XFirst", "Foo2"] _ _ resolves
  obtain ⟨run, -, runHeld, -⟩ :=
    imports_in_first_use_order.2 _ _ _ (generate_eq_ok_iff.mpr ⟨first, rfl⟩)
  refine ⟨first.scope, resolves, held, ?_, run, generate_eq_ok_iff.mpr ⟨run, rfl⟩, runHeld⟩
  rw [held.listing]
  decide +kernel

end ElementTypings
