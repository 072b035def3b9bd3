import ElementTypings.Proofs.Json.Containers
import ElementTypings.Registry.Reading

/-!
# Written registries are read back

The document that is written for a registry is read as the registry (`Registry.ofJson_json`), record
by record: every record is read from the fields that are written for it, those left out having their
value from the start. One value is written as another one is: a location that is not known, but is
spelled like one that is. Registries without such a location are canonical.
-/

namespace ElementTypings

open Json Json.Reader Json.Literal

/-! ### Canonical locations -/

/-- The location is the one that its word stands for. -/
def TypeReference.Canonical (reference : TypeReference) : Prop :=
  TypeLocation.ofWord reference.location.word = reference.location

/-- All references of the type have canonical locations. -/
def AttributeType.Canonical (type : AttributeType) : Prop :=
  ∀ reference ∈ type.references, reference.Canonical

/-- The type of the member, if there is one, is canonical. -/
def Member.Canonical (member : Member) : Prop :=
  ∀ type, member.type = some type → type.Canonical

/-- All members of the component are canonical. -/
def Component.Canonical (component : Component) : Prop :=
  ∀ entry ∈ component.members.entries, entry.2.Canonical

/-- All components of the registry are canonical. -/
def Registry.Canonical (registry : Registry) : Prop :=
  ∀ entry ∈ registry.files.entries, ∀ component, entry.2 = some component → component.Canonical

namespace Registry

/-! ### Records -/

/-- A canonical reference is read back from its text. -/
theorem takes_reference {reference : TypeReference} (canonical : reference.Canonical) :
    Takes referenceRecord.read reference.json.toList reference := by
  obtain ⟨name, location, path⟩ := reference
  have located := (takes_string "a string" location.word).into fun word =>
    ({ name := some name, location := some (TypeLocation.ofWord word) } : ReferenceDraft)
  rw [canonical] at located
  have fills : Record.Fills referenceRecord [] {}
      ([("name", quoted name), ("location", quoted location.word)] ++
        (path.map fun path => ("path", quoted path)).toList)
      { name := some name, location := some location, path } := by
    refine .cons rfl nofun ((takes_string "a string" name).into _) ?_
    refine .cons rfl (by decide) located ?_
    cases path with
    | none => exact .nil
    | some path =>
        have taken := takes_some (takes_string "a string" path) (begins_quoted path)
        exact .cons rfl (by decide) (taken.into _) .nil
  exact Record.takes_read fills rfl

theorem takes_type {type : AttributeType} (canonical : type.Canonical) :
    Takes attributeRecord.read type.json.toList type := by
  obtain ⟨text, references⟩ := type
  have listed : Takes (Reader.list referenceRecord.read)
      (listText (references.map TypeReference.json)).toList references :=
    takes_list fun reference member =>
      ⟨takes_reference (canonical reference member), begins_objectText _⟩
  have fills : Record.Fills attributeRecord [] {}
      [("text", quoted text), ("typeReferences", listText (references.map TypeReference.json))]
      { text := some text, references } := by
    refine .cons rfl nofun ((takes_string "a string" text).into _) ?_
    exact .cons rfl (by decide) (listed.into _) .nil
  exact Record.takes_read fills rfl

theorem takes_member {member : Member} (canonical : member.Canonical) :
    Takes memberRecord.read member.json.toList member := by
  obtain ⟨kind, type⟩ := member
  have fills : Record.Fills memberRecord [] {}
      ([("memberKind", quoted kind.word)] ++
        (type.map fun type => ("attributeType", type.json)).toList)
      { kind := some kind, type } := by
    refine .cons rfl nofun ((takes_word (MemberKind.ofWord?_word kind)).into _) ?_
    cases type with
    | none => exact .nil
    | some type =>
        have taken := takes_some (takes_type (canonical type rfl)) (begins_objectText _)
        exact .cons rfl (by decide) (taken.into _) .nil
  exact Record.takes_read fills rfl

/-- A canonical component is read back from its text. -/
theorem takes_component {component : Component} (canonical : component.Canonical) :
    Takes componentRecord.read component.json.toList component := by
  obtain ⟨tagName, className, members, sourcePath⟩ := component
  have listed : Takes (Reader.map memberRecord.read)
      (objectText (members.entries.map fun entry => (entry.1, entry.2.json))).toList members :=
    takes_map members fun entry member => takes_member (canonical entry member)
  have fills : Record.Fills componentRecord [] {}
      [("tagName", quoted tagName), ("className", quoted className),
        ("members", objectText (members.entries.map fun entry => (entry.1, entry.2.json))),
        ("sourcePath", quoted sourcePath)]
      { tagName := some tagName, className := some className, members,
        sourcePath := some sourcePath } := by
    refine .cons rfl nofun ((takes_string "a string" tagName).into _) ?_
    refine .cons rfl (by decide) ((takes_string "a string" className).into _) ?_
    refine .cons rfl (by decide) (listed.into _) ?_
    exact .cons rfl (by decide) ((takes_string "a UTF-8 path string" sourcePath).into _) .nil
  exact Record.takes_read fills rfl

/-- What is written for a file of a registry. -/
def fileText : Option Component → String
  | some component => component.json
  | none => "null"

/-- The document of a canonical registry is read as the registry. -/
theorem ofJson_json {registry : Registry} (canonical : registry.Canonical) :
    ofJson registry.json = .ok registry := by
  obtain ⟨files⟩ := registry
  have takes : Takes (Reader.map (Reader.optional componentRecord.read))
      (objectText (files.entries.map fun entry => (entry.1, fileText entry.2))).toList files := by
    refine takes_map files fun entry member => ?_
    obtain ⟨file, found⟩ := entry
    cases found with
    | none => exact takes_null _
    | some component =>
        exact takes_some (takes_component (canonical _ member component rfl)) (begins_objectText _)
  have written : objectText (files.entries.map fun entry => (entry.1, fileText entry.2)) =
      (Registry.mk files).json := by
    rfl
  rw [written] at takes
  unfold ofJson
  rw [read_of_takes takes]
  rfl

end Registry

end ElementTypings
