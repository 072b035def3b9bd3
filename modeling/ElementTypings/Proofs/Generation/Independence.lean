import ElementTypings.Proofs.Generation.Run
import ElementTypings.Proofs.Registry.Scans

/-!
# What generation depends on

Generation sees the face of a component: its tag, its class, its file and its observable members in
order (`Component.face`). Whatever else two components differ in, every step treats them alike, be
it that it succeeds or that it fails. The components come in the order of their files, so registries
that show the same faces have the same outcome, whatever scans they come from
(`generation_depends_on_faces`).
-/

namespace ElementTypings

/-- What generation sees of a component. -/
structure ComponentFace where
  tagName : String
  className : String
  sourcePath : String
  /-- The members that are reflected to an attribute, in order. -/
  members : List (String × Member)

/-- The face of a component. -/
def Component.face (component : Component) : ComponentFace :=
  { tagName := component.tagName
    className := component.className
    sourcePath := component.sourcePath
    members := component.observableMembers }

variable {first second : Component}

namespace Resolution

/-- The source of a reference is told from the face of the component. -/
theorem source?_congr (same : first.face = second.face) : source? first = source? second := by
  obtain ⟨tag, -, path, -⟩ := ComponentFace.mk.inj same
  funext member reference
  unfold source?
  rw [tag, path]

/-- So are the bindings of the references of a member. -/
theorem references_congr (same : first.face = second.face) :
    references first = references second := by
  funext member bindings scope list
  induction list generalizing bindings scope with
  | nil => rfl
  | cons reference later ih =>
      rw [references, references, source?_congr same]
      cases source? second member reference with
      | error failure => rfl
      | ok origin =>
          cases origin with
          | none => exact ih bindings scope
          | some source => exact ih _ _

/-- So are those of all members. -/
theorem members_congr (same : first.face = second.face) : members first = members second := by
  funext resolved scope entries
  induction entries generalizing resolved scope with
  | nil => rfl
  | cons entry later ih =>
      obtain ⟨name, member⟩ := entry
      rw [members, members, references_congr same]
      cases member.type with
      | none => exact ih resolved scope
      | some type =>
          simp only
          split
          · rfl
          · exact ih _ _

/-- Components with one face are resolved alike. -/
theorem component_congr (same : first.face = second.face) (scope : ImportScope) :
    Resolution.component scope first = Resolution.component scope second := by
  have observed : first.observableMembers = second.observableMembers :=
    congrArg ComponentFace.members same
  rw [component, component, observed, members_congr same]

end Resolution

/-- Components with one face have one block. -/
theorem ComponentBlock.synthesize_congr (same : first.face = second.face)
    (resolved : MemberBindings) (classModule : String) :
    synthesize first resolved classModule = synthesize second resolved classModule := by
  obtain ⟨tag, className, -, observed⟩ := ComponentFace.mk.inj same
  have entries : attributeEntry first = attributeEntry second := by
    funext bindings name member
    unfold attributeEntry
    rw [tag]
  unfold synthesize
  rw [tag, className, observed, entries]

namespace Generation

/-- They are given one block by a run, and leave one scope behind. -/
theorem block_congr (same : first.face = second.face) (sourceRoot : String) (scope : ImportScope) :
    block sourceRoot scope first = block sourceRoot scope second := by
  have path : first.sourcePath = second.sourcePath := congrArg ComponentFace.sourcePath same
  unfold block
  rw [Resolution.component_congr same, path]
  simp only [ComponentBlock.synthesize_congr same]

/-- Components with the same faces reserve the same aliases. -/
theorem reserveAliases_congr {components others : List Component}
    (same : components.map Component.face = others.map Component.face) :
    reserveAliases components = reserveAliases others := by
  have tags : components.map Component.tagName = others.map Component.tagName := by
    have shown := congrArg (List.map ComponentFace.tagName) same
    rw [List.map_map, List.map_map] at shown
    exact shown
  have aliases : ∀ list : List Component, reserveAliases list =
      (list.map Component.tagName).foldl (fun scope tag => scope.reserve (TagName.pascalCase tag))
        ImportScope.empty := by
    intro list
    rw [List.foldl_map]
    rfl
  rw [aliases, aliases, tags]

/-- They are given the same blocks. -/
theorem blocks_congr {components others : List Component}
    (same : components.map Component.face = others.map Component.face) (sourceRoot : String)
    (scope : ImportScope) :
    blocks sourceRoot scope components = blocks sourceRoot scope others := by
  induction components generalizing others scope with
  | nil =>
      obtain rfl := List.map_eq_nil_iff.mp same.symm
      rfl
  | cons component later ih =>
      obtain ⟨other, rest, rfl, head, tail⟩ := List.map_eq_cons_iff.mp same.symm
      rw [blocks, blocks, block_congr head.symm]
      simp only [ih tail.symm]

end Generation

/-- Registries that show the same faces in order have the same outcome. -/
theorem generate_congr {registry other : Registry}
    (same : registry.ordered.map Component.face = other.ordered.map Component.face)
    (config : BuildConfig) : generate config registry = generate config other := by
  unfold generate
  simp only [Generation.reserveAliases_congr same, Generation.blocks_congr same]

/-- **What generation depends on.** Take any two histories of scans. If the last scans of every file
found components with the same face, or none on both sides, generation has the same outcome: the
same document with the same path and numbers, or the same failure. -/
theorem generation_depends_on_faces (config : BuildConfig)
    (scans others : List (String × Option Component))
    (same : ∀ file, (Registry.lastFound? scans file).map Component.face =
      (Registry.lastFound? others file).map Component.face) :
    generate config (Registry.ofScans scans) = generate config (Registry.ofScans others) := by
  apply generate_congr
  apply Registry.map_ordered_eq
  intro file
  rw [Registry.component?_ofScans, Registry.component?_ofScans]
  exact same file

namespace Generation

/-- Scans of a project in which one file is scanned twice and another declares no component. -/
def earlyScans : List (String × Option Component) :=
  [("/app/src/b.tsx", none), ("/app/src/second.tsx", some secondColliding),
    ("/app/src/b.tsx", some firstColliding), ("/app/src/first.tsx", some firstColliding),
    ("/app/src/b.tsx", none)]

/-- Scans of the same project in another order, after members changed that are not observable. -/
def lateScans : List (String × Option Component) :=
  [("/app/src/first.tsx", some
      { firstColliding with
        members := OrderedMap.ofList
          [("close", ⟨.method, none⟩),
            ("item", ⟨.property, some ⟨"Foo[]", [⟨"Foo", .module, some "./lib/one"⟩]⟩⟩)] }),
    ("/app/src/second.tsx", some
      { secondColliding with
        members := OrderedMap.ofList
          [("item", ⟨.mutableProperty, some ⟨"Foo | Date",
            [⟨"Foo", .module, some "./lib/one.ts"⟩, ⟨"Date", .global, none⟩,
              ⟨"Foo", .module, some "./lib/two"⟩]⟩⟩),
            ("open", ⟨.element, some ⟨"Bar", [⟨"Bar", .unknown "nowhere", none⟩]⟩⟩)] })]

end Generation

/-- The order of the scans, a file without a component and other members make no difference. -/
theorem generation_depends_on_faces_of_rescan :
    (∀ file, (Registry.lastFound? Generation.earlyScans file).map Component.face =
        (Registry.lastFound? Generation.lateScans file).map Component.face) ∧
      generate Generation.collidingConfig (Registry.ofScans Generation.earlyScans) =
        generate Generation.collidingConfig (Registry.ofScans Generation.lateScans) := by
  have same : ∀ file, (Registry.lastFound? Generation.earlyScans file).map Component.face =
      (Registry.lastFound? Generation.lateScans file).map Component.face := by
    intro file
    by_cases first : file = "/app/src/first.tsx"
    · subst first
      rfl
    by_cases second : file = "/app/src/second.tsx"
    · subst second
      rfl
    by_cases third : file = "/app/src/b.tsx"
    · subst third
      rfl
    simp [Registry.lastFound?, Generation.earlyScans, Generation.lateScans, List.lookup_cons,
      beq_eq_false_iff_ne.mpr first, beq_eq_false_iff_ne.mpr second,
      beq_eq_false_iff_ne.mpr third]
  exact ⟨same, generation_depends_on_faces _ _ _ same⟩

end ElementTypings
