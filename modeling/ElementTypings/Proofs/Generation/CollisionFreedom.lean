import ElementTypings.Proofs.Generation.Run

/-!
# Names that do not collide

No two type imports of a document bind one name, and none binds the class alias of a component
(`bound_names_distinct`). This comes from the scope: after any requests its bound names are
distinct, and a symbol that is imported for the first time gets a name that no request has used
before. A run reserves the class aliases before its first import.
-/

namespace ElementTypings

namespace Generation

/-- Reserving aliases binds nothing. -/
theorem bindings_reserveAliases (components : List Component) :
    (reserveAliases components).bindings = [] := by
  suffices kept : ∀ scope : ImportScope, (components.foldl (fun scope component =>
      scope.reserve (TagName.pascalCase component.tagName)) scope).bindings = scope.bindings from
    kept ImportScope.empty
  induction components with
  | nil => exact fun scope => rfl
  | cons component later ih => exact fun scope => ih (scope.reserve _)

/-- The alias of every component is taken before any import is made. -/
theorem alias_mem_reserveAliases {components : List Component} {component : Component}
    (listed : component ∈ components) :
    TagName.pascalCase component.tagName ∈ (reserveAliases components).taken := by
  rw [reserveAliases_eq, ImportScope.mem_taken_serveAll_empty, ImportScope.mem_namesUsed_iff]
  exact Or.inl (List.mem_map.mpr ⟨component, listed, rfl⟩)

namespace Run

variable {config : BuildConfig} {registry : Registry}

/-- No name is imported twice. -/
theorem importedNames_nodup (run : Run config registry) : run.importedNames.Nodup := by
  rw [run.importedNames_eq]
  exact run.consistent.bound_nodup

/-- No type import binds a class alias: the aliases were taken before the first import. -/
theorem alias_not_mem_importedNames (run : Run config registry) {component : Component}
    (listed : component ∈ registry.ordered) :
    TagName.pascalCase component.tagName ∉ run.importedNames := by
  rw [run.importedNames_eq]
  intro repeated
  obtain ⟨binding, member, same⟩ := List.mem_map.mp repeated
  have reserved : (reserveAliases registry.ordered).Consistent := by
    rw [reserveAliases_eq]
    exact ImportScope.consistent_serveAll_empty _
  rw [(blocks_ok run.blocks_eq).1] at member
  have added : binding ∉ (reserveAliases registry.ordered).bindings := by
    rw [bindings_reserveAliases]
    exact List.not_mem_nil
  apply reserved.bound_not_mem_taken _ member added
  rw [show binding.bound = TagName.pascalCase component.tagName from same]
  exact alias_mem_reserveAliases listed

end Run

end Generation

/-- **Bound names do not collide.** After any requests to the empty scope, the bound names of all
groups together are distinct, a group lists every symbol once and is not empty, and a symbol that is
imported for the first time gets a name that no request has reserved or been answered with. In a
document that generation makes, the names that the type imports bind are distinct, and none of them
is the class alias of a component. -/
theorem bound_names_distinct :
    (∀ requests : List ScopeRequest,
      ((ImportScope.empty.serveAll requests).bindings.map ImportBinding.bound).Nodup ∧
        (∀ source group, (ImportScope.empty.serveAll requests).group? source = some group →
          (group.map ImportBinding.name).Nodup ∧ group ≠ []) ∧
        ∀ source name, (ImportScope.empty.serveAll requests).binding? source name = none →
          ((ImportScope.empty.serveAll requests).bind source name).1 ∉
            ImportScope.empty.namesUsed requests) ∧
      ∀ config registry document, generate config registry = .ok document →
        ∃ run : Generation.Run config registry, run.document = document ∧
          run.importedNames.Nodup ∧
          ∀ component ∈ registry.ordered,
            TagName.pascalCase component.tagName ∉ run.importedNames := by
  refine ⟨fun requests => ?_, fun config registry document generated => ?_⟩
  · have consistent := ImportScope.consistent_serveAll_empty requests
    refine ⟨consistent.bound_nodup, ?_, ?_⟩
    · intro source group found
      exact ⟨consistent.names_nodup found, consistent.group_ne_nil found⟩
    · intro source name absent
      rw [ImportScope.bind_of_none absent, ← ImportScope.mem_taken_serveAll_empty]
      exact consistent.freeName_not_mem name
  · obtain ⟨run, same⟩ := generate_eq_ok_iff.mp generated
    exact ⟨run, same, run.importedNames_nodup, fun _ => run.alias_not_mem_importedNames⟩

/-- Bound names do not collide where names look like suffixed forms of one another, nor in the
project in which a class alias does. -/
theorem bound_names_distinct_of_collision :
    let requests : List ScopeRequest :=
      [.bind "/a" "Foo2", .bind "/a" "Foo", .reserve "Foo22", .bind "/b" "Foo2", .bind "/b" "Foo"]
    (ImportScope.empty.serveAll requests).binding? "/c" "Foo2" = none ∧
      ((ImportScope.empty.serveAll requests).bind "/c" "Foo2").1 ∉
        ImportScope.empty.namesUsed requests ∧
      ∃ run : Generation.Run Generation.collidingConfig Generation.collidingRegistry,
        generate Generation.collidingConfig Generation.collidingRegistry = .ok run.document ∧
        run.importedNames.Nodup ∧
        ∀ component ∈ Generation.collidingRegistry.ordered,
          TagName.pascalCase component.tagName ∉ run.importedNames := by
  intro requests
  have absent : (ImportScope.empty.serveAll requests).binding? "/c" "Foo2" = none := by decide
  obtain ⟨first⟩ := Generation.nonempty_collidingRun
  obtain ⟨run, same, distinct, aliases⟩ :=
    bound_names_distinct.2 _ _ _ (generate_eq_ok_iff.mpr ⟨first, rfl⟩)
  exact ⟨absent, (bound_names_distinct.1 requests).2.2 "/c" "Foo2" absent, run,
    generate_eq_ok_iff.mpr ⟨run, rfl⟩, distinct, aliases⟩

end ElementTypings
