import ElementTypings.Proofs.Generation.ReferenceIntegrity
import ElementTypings.Proofs.ImportScope.Reservation
import ElementTypings.Proofs.Registry.Scans
import ElementTypings.Proofs.TypeText.Renaming
import Mathlib.Data.List.Forall2

/-!
# Adding a component at the end

A component whose file comes after all others is resolved last, but its class alias is reserved
first, before anything is bound. Unless the shorter run binds that very name, it makes no difference
to any import that the other components ask for (`Generation.Run.agreesBut_scopeBefore`).

The block of a component is determined by the names that the final scope holds
(`Generation.BlockOf.unique`). So the longer run repeats the shorter one: its names stay, its groups
and their bindings come first, and so do its blocks (`names_stable_under_growth`).
-/

namespace ElementTypings

namespace Generation

/-- A member is declared in one way under the names of a scope. -/
theorem AttributeOf.unique {scope : ImportScope} {component : Component}
    {entry : String × Member} {first second : AttributeEntry}
    (declared : AttributeOf scope component entry first)
    (again : AttributeOf scope component entry second) : first = second := by
  obtain ⟨named, type, bindings, typed, text, names⟩ := declared
  obtain ⟨namedAgain, typeAgain, bindingsAgain, typedAgain, textAgain, namesAgain⟩ := again
  obtain rfl := Option.some.inj (typed.symm.trans typedAgain)
  have same : first.type = second.type := by
    rw [text, textAgain]
    exact TypeText.rename_congr (fun name => (names name).trans (namesAgain name).symm) type.text
  cases first
  cases second
  congr
  exact named.trans namedAgain.symm

/-- A component has one block under the names of a scope. -/
theorem BlockOf.unique {sourceRoot : String} {final : ImportScope} {component : Component}
    {first second : ComponentBlock} (made : BlockOf sourceRoot final component first)
    (again : BlockOf sourceRoot final component second) : first = second := by
  have functional : Relator.RightUnique (AttributeOf final component) :=
    fun _ _ _ => AttributeOf.unique
  have attributes : first.attributes = second.attributes :=
    functional.forall₂ made.attributesOf again.attributesOf
  obtain ⟨-, -, located, synthesized⟩ := made
  obtain ⟨-, -, locatedAgain, synthesizedAgain⟩ := again
  obtain rfl := Except.ok.inj (located.symm.trans locatedAgain)
  obtain ⟨entries, -, same⟩ := bind_eq_ok_iff.mp synthesized
  obtain ⟨entriesAgain, -, sameAgain⟩ := bind_eq_ok_iff.mp synthesizedAgain
  cases same
  cases sameAgain
  cases attributes
  rfl

/-- The scope in which components are resolved and the class alias of one more is reserved. -/
def scopeBefore (last : Component) (components : List Component) : ImportScope :=
  ((reserveAliases components).reserve (TagName.pascalCase last.tagName)).serveAll
    (components.flatMap Resolution.requests)

namespace Run

variable {config : BuildConfig} {registry grown : Registry} {component : Component}

/-- The last component is resolved in the scope that the others leave behind. -/
theorem scope_eq_of_last (longer : Run config grown)
    (last : grown.ordered = registry.ordered ++ [component]) :
    longer.scope =
      (scopeBefore component registry.ordered).serveAll (Resolution.requests component) := by
  have aliases : reserveAliases grown.ordered =
      (reserveAliases registry.ordered).reserve (TagName.pascalCase component.tagName) := by
    rw [last, reserveAliases, List.foldl_append]
    rfl
  rw [(blocks_ok longer.blocks_eq).1, aliases, last, List.flatMap_append,
    ImportScope.serveAll_append, List.flatMap_singleton]
  rfl

/-- A class alias that the shorter run does not bind changes none of its answers. -/
theorem agreesBut_scopeBefore (run : Run config registry)
    (unbound : TagName.pascalCase component.tagName ∉ run.importedNames) :
    run.scope.AgreesBut (TagName.pascalCase component.tagName)
      (scopeBefore component registry.ordered) := by
  have reserved : (reserveAliases registry.ordered).Consistent := by
    rw [reserveAliases_eq]
    exact ImportScope.consistent_serveAll_empty _
  have served := (blocks_ok run.blocks_eq).1
  rw [served]
  refine (ImportScope.agreesBut_reserve _ _).serveAll reserved (reserved.reserve _) _ ?_
  rw [← served]
  intro source name known
  apply unbound
  rw [run.importedNames_eq]
  exact List.mem_map.mpr
    ⟨{ name, bound := _ }, run.consistent.mem_bindings_iff_boundName?.mpr ⟨source, known⟩, rfl⟩

section Growth

variable (run : Run config registry) (longer : Run config grown)
  (last : grown.ordered = registry.ordered ++ [component])
  (unbound : TagName.pascalCase component.tagName ∉ run.importedNames)

include last unbound

/-- Every symbol keeps its name. -/
theorem keeps_grown : run.scope.Keeps longer.scope := by
  intro source name bound known
  rw [longer.scope_eq_of_last last]
  apply ImportScope.keeps_serveAll
  rw [(run.agreesBut_scopeBefore unbound).boundName?_eq]
  exact known

/-- The groups and their bindings come first. -/
theorem continues_grown :
    GroupsContinue run.scope.groups.entries longer.scope.groups.entries := by
  rw [longer.scope_eq_of_last last, ← (run.agreesBut_scopeBefore unbound).groups]
  exact ImportScope.continues_serveAll _ _

/-- The blocks come first, and the block of the new component is the last. -/
theorem blocks_grown :
    ∃ block, longer.blocks = run.blocks ++ [block] ∧
      BlockOf config.sourceRoot longer.scope component block := by
  have among : component ∈ grown.ordered := by
    rw [last]
    exact List.mem_append_right _ List.mem_cons_self
  obtain ⟨block, -, made⟩ := exists_of_forall₂ longer.blocksOf among
  have repeated : List.Forall₂ (BlockOf config.sourceRoot longer.scope) registry.ordered
      run.blocks :=
    run.blocksOf.imp fun _ _ shorter => shorter.mono (run.keeps_grown longer last unbound)
  have together : List.Forall₂ (BlockOf config.sourceRoot longer.scope) grown.ordered
      (run.blocks ++ [block]) := by
    rw [last]
    exact List.rel_append repeated (.cons made .nil)
  have functional : Relator.RightUnique (BlockOf config.sourceRoot longer.scope) :=
    fun _ _ _ => BlockOf.unique
  exact ⟨block, functional.forall₂ longer.blocksOf together, made⟩

end Growth

end Run

end Generation

/-- **Names are stable under growth.** Add a component whose file comes after the files of all other
components, and let generation succeed before and after. If its class alias is not a name that the
document bound before, then every symbol keeps its bound name, the imported modules come first and
in their order with their bindings first in each, and the blocks of all other components are
unchanged and come first. -/
theorem names_stable_under_growth {config : BuildConfig} {registry : Registry} {file : String}
    {component : Component} {document later : GeneratedDocument}
    (last : ∀ entry ∈ registry.present, entry.1 < file)
    (generated : generate config registry = .ok document)
    (regenerated : generate config (registry.insert file (some component)) = .ok later) :
    ∃ (run : Generation.Run config registry)
      (longer : Generation.Run config (registry.insert file (some component))),
      run.document = document ∧ longer.document = later ∧
      (TagName.pascalCase component.tagName ∉ run.importedNames →
        run.scope.Keeps longer.scope ∧
        GroupsContinue run.scope.groups.entries longer.scope.groups.entries ∧
        ∃ block, longer.blocks = run.blocks ++ [block] ∧
          block.tagName = component.tagName) := by
  obtain ⟨run, same⟩ := generate_eq_ok_iff.mp generated
  obtain ⟨longer, sameLater⟩ := generate_eq_ok_iff.mp regenerated
  have ordered := Registry.ordered_insert_of_last component last
  refine ⟨run, longer, same, sameLater, fun unbound => ⟨?_, ?_, ?_⟩⟩
  · exact run.keeps_grown longer ordered unbound
  · exact run.continues_grown longer ordered unbound
  · obtain ⟨block, blocks, made⟩ := run.blocks_grown longer ordered unbound
    exact ⟨block, blocks, made.tagName_eq⟩

namespace Generation

/-- A component that comes after those of the project in which names collide. Its class alias is a
suffixed form of the name that they import, and it imports that name as well. -/
def thirdColliding : Component :=
  { tagName := "foo4"
    className := "Third"
    members := OrderedMap.ofList
      [("item", ⟨.property, some ⟨"Foo | Bar",
        [⟨"Foo", .module, some "./lib/three"⟩, ⟨"Bar", .module, some "./lib/one"⟩]⟩⟩)]
    sourcePath := "/app/src/third.tsx" }

/-- The key of the third scan is behind those of the two others. -/
theorem last_thirdColliding :
    ∀ entry ∈ collidingRegistry.present, entry.1 < "/app/src/third.tsx" := by
  decide

/-- Generation succeeds with the third component as well. -/
theorem nonempty_grownRun :
    Nonempty (Run collidingConfig
      (collidingRegistry.insert "/app/src/third.tsx" (some thirdColliding))) := by
  have ordered := Registry.ordered_insert_of_last thirdColliding last_thirdColliding
  rw [ordered_collidingRegistry] at ordered
  exact nonempty_run ordered (by decide +kernel)

end Generation

/-- Names are stable where the class alias of the new component is the next suffixed name: a symbol
of the new component gets the name after that. -/
theorem names_stable_under_growth_of_suffix :
    ∃ (run : Generation.Run Generation.collidingConfig Generation.collidingRegistry)
      (longer : Generation.Run Generation.collidingConfig
        (Generation.collidingRegistry.insert "/app/src/third.tsx"
          (some Generation.thirdColliding))),
      generate Generation.collidingConfig Generation.collidingRegistry = .ok run.document ∧
      run.importedNames = ["Foo", "Foo3"] ∧
      longer.importedNames = ["Foo", "Bar", "Foo3", "Foo5"] ∧
      run.scope.Keeps longer.scope ∧
      GroupsContinue run.scope.groups.entries longer.scope.groups.entries ∧
      ∃ block, longer.blocks = run.blocks ++ [block] ∧ block.tagName = "foo4" := by
  obtain ⟨first⟩ := Generation.nonempty_collidingRun
  obtain ⟨second⟩ := Generation.nonempty_grownRun
  obtain ⟨run, longer, -, -, stable⟩ := names_stable_under_growth Generation.last_thirdColliding
    (generate_eq_ok_iff.mpr ⟨first, rfl⟩) (generate_eq_ok_iff.mpr ⟨second, rfl⟩)
  have names : run.importedNames = ["Foo", "Foo3"] := by
    rw [run.importedNames_eq, run.scope_eq, Generation.ordered_collidingRegistry]
    decide +kernel
  have later : longer.importedNames = ["Foo", "Bar", "Foo3", "Foo5"] := by
    rw [longer.importedNames_eq, longer.scope_eq,
      Registry.ordered_insert_of_last _ Generation.last_thirdColliding,
      Generation.ordered_collidingRegistry]
    decide +kernel
  refine ⟨run, longer, generate_eq_ok_iff.mpr ⟨run, rfl⟩, names, later, stable ?_⟩
  rw [names]
  decide +kernel

end ElementTypings
