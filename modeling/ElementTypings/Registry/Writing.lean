import ElementTypings.Json.StringLiteral
import ElementTypings.Registry

/-!
# Writing a registry

The compact JSON document of a registry: files and members in their order, the fields of a record in
the order of their declaration, and nothing between the parts. An attribute type or a path that is
absent is left out; a file without a component is written as `null`.
-/

namespace ElementTypings

namespace Json.Literal

/-- A list of values that are written already. -/
def listText (values : List String) : String :=
  "[" ++ ",".intercalate values ++ "]"

/-- An object of values that are written already. -/
def objectText (fields : List (String × String)) : String :=
  "\x7b" ++ ",".intercalate (fields.map fun field => quoted field.1 ++ ":" ++ field.2) ++ "\x7d"

end Json.Literal

open Json.Literal

/-- The reference as JSON. -/
def TypeReference.json (reference : TypeReference) : String :=
  objectText
    ([("name", quoted reference.name), ("location", quoted reference.location.word)] ++
      (reference.path.map fun path => ("path", quoted path)).toList)

/-- The attribute type as JSON. -/
def AttributeType.json (type : AttributeType) : String :=
  objectText
    [("text", quoted type.text),
      ("typeReferences", listText (type.references.map TypeReference.json))]

/-- The member as JSON. -/
def Member.json (member : Member) : String :=
  objectText
    ([("memberKind", quoted member.kind.word)] ++
      (member.type.map fun type => ("attributeType", type.json)).toList)

/-- The component as JSON. -/
def Component.json (component : Component) : String :=
  objectText
    [("tagName", quoted component.tagName),
      ("className", quoted component.className),
      ("members",
        objectText (component.members.entries.map fun entry => (entry.1, entry.2.json))),
      ("sourcePath", quoted component.sourcePath)]

/-- The registry as JSON. -/
def Registry.json (registry : Registry) : String :=
  objectText (registry.files.entries.map fun entry =>
    (entry.1,
      match entry.2 with
      | some component => component.json
      | none => "null"))

end ElementTypings
