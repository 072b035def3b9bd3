import ElementTypings.Json.Typed
import ElementTypings.Registry

/-!
# Reading a registry

A registry is a JSON object that gives every scanned file its component, or `null`. The drafts below
collect the fields of each record; a field that may be left out has its value from the start.
-/

namespace ElementTypings.Registry

open Json (Reader)
open Json.Reader (Field Record)

/-- The fields of a type reference as they are read. -/
structure ReferenceDraft where
  name : Option String := none
  location : Option TypeLocation := none
  path : Option String := none

/-- The value of a field, or the name of the field if it is missing. -/
def wanted {Value : Type} (field : String) : Option Value → Except String Value
  | some value => .ok value
  | none => .error field

/-- References to types. -/
def referenceRecord : Record ReferenceDraft TypeReference where
  name := "TypeReference"
  fields :=
    [{ name := "name", required := true
       read := fun draft => do return { draft with name := some (← Reader.string "a string") } },
      { name := "location", required := true
        read := fun draft => do
          return { draft with
            location := some (TypeLocation.ofWord (← Reader.string "a string")) } },
      { name := "path", required := false
        read := fun draft => do
          return { draft with path := ← Reader.optional (Reader.string "a string") } }]
  start := {}
  finish draft := do
    pure
      { name := ← wanted "name" draft.name
        location := ← wanted "location" draft.location
        path := draft.path }

/-- The fields of an attribute's type as they are read. -/
structure AttributeDraft where
  text : Option String := none
  references : List TypeReference := []

/-- Types of attributes. -/
def attributeRecord : Record AttributeDraft AttributeType where
  name := "AttributeType"
  fields :=
    [{ name := "text", required := true
       read := fun draft => do return { draft with text := some (← Reader.string "a string") } },
      { name := "typeReferences", required := false
        read := fun draft => do
          return { draft with references := ← Reader.list referenceRecord.read } }]
  start := {}
  finish draft := do
    pure { text := ← wanted "text" draft.text, references := draft.references }

/-- The fields of a member as they are read. -/
structure MemberDraft where
  kind : Option MemberKind := none
  type : Option AttributeType := none

/-- Members of a component. -/
def memberRecord : Record MemberDraft Member where
  name := "MemberDescriptor"
  fields :=
    [{ name := "memberKind", required := true
       read := fun draft => do
        return { draft with
          kind := some (← Reader.word (MemberKind.all.map MemberKind.word) MemberKind.ofWord?) } },
      { name := "attributeType", required := false
        read := fun draft => do
          return { draft with type := ← Reader.optional attributeRecord.read } }]
  start := {}
  finish draft := do
    pure { kind := ← wanted "memberKind" draft.kind, type := draft.type }

/-- The fields of a component as they are read. -/
structure ComponentDraft where
  tagName : Option String := none
  className : Option String := none
  members : OrderedMap Member := ∅
  sourcePath : Option String := none

/-- Components. -/
def componentRecord : Record ComponentDraft Component where
  name := "ComponentDescriptor"
  fields :=
    [{ name := "tagName", required := true
       read := fun draft => do return { draft with tagName := some (← Reader.string "a string") } },
      { name := "className", required := true
        read := fun draft => do
          return { draft with className := some (← Reader.string "a string") } },
      { name := "members", required := false
        read := fun draft => do return { draft with members := ← Reader.map memberRecord.read } },
      { name := "sourcePath", required := true
        read := fun draft => do
          return { draft with sourcePath := some (← Reader.string "a UTF-8 path string") } }]
  start := {}
  finish draft := do
    pure
      { tagName := ← wanted "tagName" draft.tagName
        className := ← wanted "className" draft.className
        members := draft.members
        sourcePath := ← wanted "sourcePath" draft.sourcePath }

/-- The registry that a document holds. -/
def ofJson (document : String) : Except Json.Failure Registry :=
  (Json.read (Reader.map (Reader.optional componentRecord.read)) document).map Registry.mk

end ElementTypings.Registry
