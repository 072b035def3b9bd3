import ElementTypings.Proofs.Generation.Run
import ElementTypings.Proofs.Path.NormalForm

/-!
# When generation fails, and why

What is wrong with a component can be told without a scope: its faults are looked for in its
references, in the two paths that its class is imported by, and in its untyped members, in this
order (`Generation.fault?`). Generation fails with the first fault of the first component that has
one (`Generation.failure?_blocks`). The type imports cannot fail any more once all blocks are made
(`Generation.failure?_typeImports`): a source that is an absolute path needs an absolute source
root, and the block of every component needs one as well.

The faults are exhaustive, so generation succeeds exactly for what is complete
(`generation_outcome`).
-/

namespace ElementTypings

namespace Generation

/-- The fault of a path that has to be absolute. -/
def pathFault? (path : String) : Option GenerationFailure :=
  if LexicalPath.isAbsolute path then none else some (.path (.notAbsolute path))

/-- The fault of a reference. A module is looked for from the directory of the component if its
path begins with a dot. -/
def referenceFault? (component : Component) (member : String) (reference : TypeReference) :
    Option GenerationFailure :=
  match reference.location, reference.path with
  | .unknown kind, _ => some (.unknownLocation kind member component.tagName)
  | .module, none => some (.missingImportPath reference.name member component.tagName)
  | .module, some path =>
    if path.toList.head? = some '.' then pathFault? (LexicalPath.directory component.sourcePath)
    else none
  | _, _ => none

/-- The fault of an observable member's type. -/
def typeFault? (component : Component) (entry : String × Member) : Option GenerationFailure :=
  if entry.2.type.isSome then none
  else some (.missingAttributeType entry.1 component.tagName)

/-- The first fault of a component. -/
def fault? (sourceRoot : String) (component : Component) : Option GenerationFailure :=
  (component.mentions.findSome? fun mention => referenceFault? component mention.1 mention.2)
    |>.or (pathFault? sourceRoot)
    |>.or (pathFault? component.sourcePath)
    |>.or (component.observableMembers.findSome? (typeFault? component))

end Generation

/-- What generation asks of a component. -/
structure Component.Complete (component : Component) : Prop where
  source_absolute : LexicalPath.isAbsolute component.sourcePath
  located : ∀ mention ∈ component.mentions,
    mention.2.location = .global ∨ mention.2.location = .ownFile ∨
      (mention.2.location = .module ∧ mention.2.path.isSome)
  typed : ∀ entry ∈ component.observableMembers, entry.2.type.isSome

namespace Resolution

open Generation

/-- Looking for the source of a reference fails with the fault of the reference. -/
theorem failure?_source? (component : Component) (member : String) (reference : TypeReference) :
    failure? (source? component member reference) = referenceFault? component member reference := by
  unfold source? referenceFault?
  cases located : reference.location with
  | global => rfl
  | ownFile => rfl
  | unknown kind => rfl
  | module =>
      cases written : reference.path with
      | none => rfl
      | some path =>
          by_cases dot : path.toList.head? = some '.'
          · simp only [dot, ↓reduceIte, LexicalPath.resolve, LexicalPath.not_isAbsolute_of_dot dot,
              pathFault?, Bool.false_eq_true]
            by_cases absolute : LexicalPath.isAbsolute (LexicalPath.directory component.sourcePath)
            · simp only [absolute, ↓reduceIte, failure?]
            · simp only [absolute, ↓reduceIte, failure?, Bool.false_eq_true]
          · simp only [dot, ↓reduceIte, failure?]

/-- Whatever the scope is, references fail as the first of them that has a fault. -/
theorem failure?_references (component : Component) (member : String) (bindings : TypeText.Bindings)
    (scope : ImportScope) (list : List TypeReference) :
    failure? (references component member bindings scope list).1 =
      list.findSome? (referenceFault? component member) := by
  induction list generalizing bindings scope with
  | nil => rfl
  | cons reference later ih =>
      have first := failure?_source? component member reference
      rw [references, List.findSome?_cons, ← first]
      cases found : source? component member reference with
      | error failure => rfl
      | ok origin =>
          cases origin with
          | none => exact ih bindings scope
          | some source => exact ih _ _

/-- Resolving members fails with the first fault among their mentions, whatever the scope. -/
theorem failure?_members (component : Component) (resolved : MemberBindings) (scope : ImportScope)
    (entries : List (String × Member)) :
    failure? (members component resolved scope entries).1 =
      (mentionsOf entries).findSome? fun mention =>
        referenceFault? component mention.1 mention.2 := by
  induction entries generalizing resolved scope with
  | nil => rfl
  | cons entry later ih =>
      obtain ⟨name, member⟩ := entry
      have split : (mentionsOf ((name, member) :: later)).findSome?
            (fun mention => referenceFault? component mention.1 mention.2) =
          (member.references.findSome? (referenceFault? component name)).or
            ((mentionsOf later).findSome? fun mention =>
              referenceFault? component mention.1 mention.2) := by
        unfold mentionsOf
        rw [List.flatMap_cons, List.findSome?_append, List.findSome?_map]
        rfl
      rw [members, split]
      cases typed : member.type with
      | none =>
          rw [Member.references, typed]
          exact ih resolved scope
      | some type =>
          have first := failure?_references component name ∅ scope type.references
          rw [Member.references, typed]
          simp only [← first]
          cases made : references component name ∅ scope type.references with
          | mk answer middle =>
              cases answer with
              | error failure => rfl
              | ok bindings => exact ih (resolved.insert name bindings) middle

/-- Resolving a component fails with the first fault among its mentions. -/
theorem failure?_component (scope : ImportScope) (component : Component) :
    failure? (Resolution.component scope component).1 =
      component.mentions.findSome? fun mention =>
        referenceFault? component mention.1 mention.2 :=
  failure?_members component ∅ scope component.observableMembers

end Resolution

namespace Generation

/-- The failure of a lexical operation is reported as one of a path. -/
theorem failure?_ofPath {Value : Type} (outcome : Except PathError Value) :
    failure? (ofPath outcome) = (failure? outcome).map GenerationFailure.path := by
  cases outcome <;> rfl

/-- A route fails for its start, or else for its target, if that is not absolute. -/
theorem failure?_relative (source target : String) :
    (failure? (LexicalPath.relative source target)).map GenerationFailure.path =
      (pathFault? source).or (pathFault? target) := by
  unfold LexicalPath.relative pathFault?
  by_cases start : LexicalPath.isAbsolute source
  · by_cases goal : LexicalPath.isAbsolute target
    · simp [start, goal, failure?]
    · simp [start, goal, failure?]
  · simp [start, failure?]

/-- A specifier is wanted of two absolute paths, and of nothing else. -/
theorem failure?_ofFile (sourceRoot file : String) :
    failure? (ofPath (ModuleSpecifier.ofFile sourceRoot file)) =
      (pathFault? sourceRoot).or (pathFault? file) := by
  have located : failure? (ModuleSpecifier.ofFile sourceRoot file) =
      failure? (LexicalPath.relative sourceRoot file) := by
    unfold ModuleSpecifier.ofFile
    rw [failure?_bind none, Option.or_none]
    intro way _
    simp only
    split <;> rfl
  rw [failure?_ofPath, located, failure?_relative]

/-- Making a block fails for the first observable member without a type. -/
theorem failure?_synthesize (component : Component) (resolved : MemberBindings)
    (classModule : String) :
    failure? (ComponentBlock.synthesize component resolved classModule) =
      component.observableMembers.findSome? (typeFault? component) := by
  have entries : (fun entry : String × Member =>
      failure? (ComponentBlock.attributeEntry component resolved entry.1 entry.2)) =
        typeFault? component := by
    funext entry
    unfold ComponentBlock.attributeEntry typeFault?
    cases entry.2.type <;> rfl
  unfold ComponentBlock.synthesize
  rw [failure?_bind none, Option.or_none, failure?_mapM, entries]
  intro attributes _
  rfl

/-- The block of a component fails with the component's first fault. -/
theorem failure?_block (sourceRoot : String) (scope : ImportScope) (component : Component) :
    failure? (block sourceRoot scope component) = fault? sourceRoot component := by
  have resolution := Resolution.failure?_component scope component
  unfold block fault?
  rw [← resolution]
  cases resolved : Resolution.component scope component with
  | mk answer later =>
      cases answer with
      | error failure => rfl
      | ok bindings =>
          change failure? (ofPath _ >>= _) = _
          rw [failure?_bind (component.observableMembers.findSome? (typeFault? component)),
            failure?_ofFile]
          · rfl
          · intro classModule _
            rw [failure?_bind none, Option.or_none, failure?_synthesize]
            intro block _
            rfl

/-- Making blocks fails with the first fault of the first component that has one. -/
theorem failure?_blocks (sourceRoot : String) (scope : ImportScope) (components : List Component) :
    failure? (blocks sourceRoot scope components) = components.findSome? (fault? sourceRoot) := by
  induction components generalizing scope with
  | nil => rfl
  | cons component later ih =>
      rw [blocks, List.findSome?_cons,
        failure?_bind (later.findSome? (fault? sourceRoot)), failure?_block]
      · cases fault? sourceRoot component <;> rfl
      · intro made _
        rw [failure?_bind none, Option.or_none, ih]
        intro rest _
        rfl

/-- An import can only fail for the source root, and only where its source is a file. -/
theorem failure?_typeImport (sourceRoot : String) (group : String × List ImportBinding) :
    failure? (typeImport sourceRoot group) =
      if LexicalPath.isAbsolute group.1 then pathFault? sourceRoot else none := by
  unfold typeImport
  rw [failure?_bind none, Option.or_none]
  · unfold ModuleSpecifier.ofSource
    split
    · next absolute =>
      have sound : pathFault? group.1 = none := if_pos absolute
      rw [failure?_ofFile, sound, Option.or_none]
    · rfl
  · intro module _
    rfl

/-- Type imports do not fail below an absolute source root. -/
theorem failure?_typeImports {sourceRoot : String} (absolute : LexicalPath.isAbsolute sourceRoot)
    (scope : ImportScope) : failure? (typeImports sourceRoot scope) = none := by
  unfold typeImports
  rw [failure?_mapM, List.findSome?_eq_none_iff]
  intro group _
  rw [failure?_typeImport]
  have sound : pathFault? sourceRoot = none := if_pos absolute
  rw [sound, ite_self]

/-- A path is without fault exactly if it is absolute. -/
theorem pathFault?_eq_none_iff {path : String} :
    pathFault? path = none ↔ LexicalPath.isAbsolute path := by
  unfold pathFault?
  split <;> simp_all

/-- A component in an absolute file can find every module that is given by a path, so its references
have no fault but a location that is not known and a path that is missing. -/
theorem referenceFault?_eq_none_iff {component : Component}
    (absolute : LexicalPath.isAbsolute component.sourcePath) {member : String}
    {reference : TypeReference} :
    referenceFault? component member reference = none ↔
      reference.location = .global ∨ reference.location = .ownFile ∨
        (reference.location = .module ∧ reference.path.isSome) := by
  have directory : pathFault? (LexicalPath.directory component.sourcePath) = none :=
    pathFault?_eq_none_iff.mpr (LexicalPath.isAbsolute_directory absolute)
  unfold referenceFault?
  cases reference.location with
  | global => simp
  | ownFile => simp
  | unknown kind => simp
  | module => cases reference.path <;> simp [directory]

/-- A component is without fault exactly if it is complete, below an absolute source root. -/
theorem fault?_eq_none_iff {sourceRoot : String} {component : Component} :
    fault? sourceRoot component = none ↔
      LexicalPath.isAbsolute sourceRoot ∧ component.Complete := by
  have types : component.observableMembers.findSome? (typeFault? component) = none ↔
      ∀ entry ∈ component.observableMembers, entry.2.type.isSome := by
    rw [List.findSome?_eq_none_iff]
    refine forall₂_congr fun entry _ => ?_
    unfold typeFault?
    split <;> simp_all
  unfold fault?
  rw [Option.or_eq_none_iff, Option.or_eq_none_iff, Option.or_eq_none_iff, types,
    pathFault?_eq_none_iff, pathFault?_eq_none_iff, List.findSome?_eq_none_iff]
  constructor
  · rintro ⟨⟨⟨located, root⟩, absolute⟩, typed⟩
    exact ⟨root, absolute, fun mention mentioned =>
      (referenceFault?_eq_none_iff absolute).mp (located mention mentioned), typed⟩
  · rintro ⟨root, absolute, located, typed⟩
    exact ⟨⟨⟨fun mention mentioned =>
      (referenceFault?_eq_none_iff absolute).mpr (located mention mentioned), root⟩, absolute⟩,
      typed⟩

/-- Once all blocks are made, the type imports do not fail: either there is a block, for which the
source root was checked, or nothing is imported. -/
theorem failure?_typeImports_of_blocks {sourceRoot : String} {components : List Component}
    {result : List ComponentBlock} {scope : ImportScope}
    (made : blocks sourceRoot (reserveAliases components) components = .ok (result, scope)) :
    failure? (typeImports sourceRoot scope) = none := by
  cases components with
  | nil =>
      cases made
      rfl
  | cons component later =>
      have sound : (component :: later).findSome? (fault? sourceRoot) = none := by
        rw [← failure?_blocks, made]
        rfl
      have first := List.findSome?_eq_none_iff.mp sound component List.mem_cons_self
      exact failure?_typeImports (fault?_eq_none_iff.mp first).1 scope

end Generation

/-- **Generation fails with the first fault** of the components, in their order. -/
theorem failure?_generate (config : BuildConfig) (registry : Registry) :
    failure? (generate config registry) =
      registry.ordered.findSome? (Generation.fault? config.sourceRoot) := by
  unfold generate
  rw [failure?_bind none, Option.or_none, Generation.failure?_blocks]
  intro made succeeded
  rw [failure?_bind none, Option.or_none,
    Generation.failure?_typeImports_of_blocks succeeded]
  intro imports _
  rfl

/-- Every component of a registry is listed once. -/
theorem Registry.length_ordered (registry : Registry) :
    registry.ordered.length = registry.componentCount := by
  rw [ordered, componentCount, List.length_map, List.length_mergeSort]

/-- **When generation succeeds, and how it fails.** Generation succeeds exactly if the registry has
no component, or if the source root is absolute and every component is complete. It fails exactly
with the first fault of the first component, in the order of the files, that has one. The type
imports never fail once the blocks of all components are made. -/
theorem generation_outcome (config : BuildConfig) (registry : Registry) :
    ((∃ document, generate config registry = .ok document) ↔
        registry.componentCount = 0 ∨
          (LexicalPath.isAbsolute config.sourceRoot ∧
            ∀ component ∈ registry.ordered, component.Complete)) ∧
      (∀ failure, generate config registry = .error failure ↔
        ∃ earlier component later, registry.ordered = earlier ++ component :: later ∧
          (∀ sound ∈ earlier, Generation.fault? config.sourceRoot sound = none) ∧
          Generation.fault? config.sourceRoot component = some failure) ∧
      ∀ blocks scope,
        Generation.blocks config.sourceRoot (Generation.reserveAliases registry.ordered)
            registry.ordered = .ok (blocks, scope) →
          ∃ imports, Generation.typeImports config.sourceRoot scope = .ok imports := by
  have outcome := failure?_generate config registry
  refine ⟨?_, ?_, ?_⟩
  · rw [← failure?_eq_none_iff, outcome, List.findSome?_eq_none_iff, ← registry.length_ordered,
      List.length_eq_zero_iff]
    simp only [Generation.fault?_eq_none_iff]
    constructor
    · intro sound
      cases components : registry.ordered with
      | nil => exact Or.inl rfl
      | cons component later =>
          rw [components] at sound
          exact Or.inr ⟨(sound component List.mem_cons_self).1, fun other listed =>
            (sound other listed).2⟩
    · rintro (none | ⟨absolute, complete⟩) component listed
      · rw [none] at listed
        cases listed
      · exact ⟨absolute, complete component listed⟩
  · intro failure
    rw [← failure?_eq_some_iff, outcome, List.findSome?_eq_some_iff]
    constructor
    · rintro ⟨earlier, component, later, split, faulty, sound⟩
      exact ⟨earlier, component, later, split, sound, faulty⟩
    · rintro ⟨earlier, component, later, split, sound, faulty⟩
      exact ⟨earlier, component, later, split, faulty, sound⟩
  · intro blocks scope made
    exact failure?_eq_none_iff.mp (Generation.failure?_typeImports_of_blocks made)

namespace Generation

/-- A component with two faults: a module without a path, and a member without a type. -/
def faultyComponent : Component :=
  { tagName := "x-faulty"
    className := "Faulty"
    members := OrderedMap.ofList
      [("open", ⟨.property, none⟩),
        ("item", ⟨.property, some ⟨"Date | Foo",
          [⟨"Date", .global, none⟩, ⟨"Foo", .module, none⟩]⟩⟩)]
    sourcePath := "/app/src/faulty.tsx" }

/-- A registry in which a component without faults comes before the faulty one. -/
def faultyRegistry : Registry :=
  (Registry.empty.insert faultyComponent.sourcePath (some faultyComponent)).insert "/app/src/a.tsx"
    (some firstColliding)

theorem ordered_faultyRegistry : faultyRegistry.ordered = [firstColliding, faultyComponent] := by
  have present : faultyRegistry.present =
      [("/app/src/faulty.tsx", faultyComponent), ("/app/src/a.tsx", firstColliding)] := rfl
  rw [Registry.ordered, present]
  simp [List.mergeSort, List.MergeSort.Internal.splitInTwo]

end Generation

/-- The reference without a path is reported before the member without a type, and the project in
which names collide succeeds. -/
theorem generation_outcome_of_faulty :
    generate Generation.collidingConfig Generation.faultyRegistry =
        .error (.missingImportPath "Foo" "item" "x-faulty") ∧
      (∃ document, generate Generation.collidingConfig Generation.collidingRegistry =
        .ok document) ∧
      ∃ run : Generation.Run Generation.collidingConfig Generation.collidingRegistry,
        ∃ imports, Generation.typeImports "/app/src" run.scope = .ok imports := by
  have faulty := generation_outcome Generation.collidingConfig Generation.faultyRegistry
  have colliding := generation_outcome Generation.collidingConfig Generation.collidingRegistry
  obtain ⟨run⟩ := Generation.nonempty_collidingRun
  refine ⟨(faulty.2.1 _).mpr ?_, ?_, run, colliding.2.2 run.blocks run.scope run.blocks_eq⟩
  · refine ⟨[Generation.firstColliding], Generation.faultyComponent, [],
      Generation.ordered_faultyRegistry, ?_, ?_⟩
    · decide +kernel
    · decide +kernel
  · refine colliding.1.mpr (Or.inr ⟨by decide +kernel, ?_⟩)
    rw [Generation.ordered_collidingRegistry]
    have sound : ∀ component ∈ [Generation.firstColliding, Generation.secondColliding],
        Generation.fault? "/app/src" component = none := by decide +kernel
    exact fun component listed =>
      (Generation.fault?_eq_none_iff.mp (sound component listed)).2

end ElementTypings
