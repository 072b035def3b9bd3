import ElementTypings.Declaration.Syntax
import ElementTypings.Generation.Resolution
import ElementTypings.Component

/-!
# The declarations of one component

A component is declared by an import of its class and by additions to the global scope: the
interface of its element and the variable that constructs it, its entries in the maps of tag names,
its element in JSX, and the interface of its attributes.
-/

namespace ElementTypings

/-- An attribute of an element, with the type it has in the document. -/
structure AttributeEntry where
  name : String
  type : String
deriving DecidableEq, Repr

/-- The names and entries of a component's declarations. -/
structure ComponentBlock where
  tagName : String
  className : String
  /-- The name that the class is imported under. -/
  classAlias : String
  /-- The specifier that the class is imported from. -/
  classModule : String
  elementInterface : String
  attributesInterface : String
  attributes : List AttributeEntry
deriving DecidableEq, Repr

namespace ComponentBlock

/-- The attribute of an observable member, with its type in the names of the document. -/
def attributeEntry (component : Component) (resolved : MemberBindings) (name : String)
    (member : Member) : Except GenerationFailure AttributeEntry :=
  match member.type with
  | none => .error (.missingAttributeType name component.tagName)
  | some type =>
    .ok
      { name
        type :=
          match resolved.lookup? name with
          | some bindings => TypeText.rename type.text bindings
          | none => type.text }

/-- The block of a component whose references are resolved and whose class is imported from the
given module. -/
def synthesize (component : Component) (resolved : MemberBindings) (classModule : String) :
    Except GenerationFailure ComponentBlock := do
  let name := TagName.pascalCase component.tagName
  let attributes ← component.observableMembers.mapM fun entry =>
    attributeEntry component resolved entry.1 entry.2
  pure
    { tagName := component.tagName
      className := component.className
      classAlias := name
      classModule
      elementInterface := "HTML" ++ name ++ "Element"
      attributesInterface := name ++ "Attributes"
      attributes }

/-- The interface that every element extends. -/
def baseElement : String := "HTMLElement"

/-- The interface that every attributes interface extends. -/
def baseAttributes : String := "HTMLAttributes"

/-- The maps from tag names to elements. -/
def tagNameMaps : List String := ["HTMLElementTagNameMap", "ElementTagNameMap"]

/-- The namespace of the elements of JSX. -/
def elementNamespace : String := "JSX"

/-- The namespace of the attributes interfaces. -/
def attributesNamespace : String := "JSXElements"

/-- The entries of the element in the maps of tag names: the map, the tag and the interface. -/
def registrations (block : ComponentBlock) : List (String × String × String) :=
  tagNameMaps.map fun map => (map, block.tagName, block.elementInterface)

/-- The import of the class. -/
def classImport (block : ComponentBlock) : ImportStatement :=
  { module := block.classModule
    specifiers := [.binding block.className block.classAlias]
    multiline := false }

/-- The interface of the element. -/
def element (block : ComponentBlock) : Interface :=
  { name := block.elementInterface
    bases := [block.classAlias, baseElement]
    properties := []
    exported := false }

/-- The variable that constructs the element. -/
def constructorVariable (block : ComponentBlock) : Declaration :=
  .objectVariable block.elementInterface
    [.property "prototype" block.elementInterface, .constructor block.elementInterface]

/-- An interface that declares one required property. -/
def entry (interface key type : String) : Interface :=
  { name := interface
    bases := []
    properties := [{ name := key, type, optional := false }]
    exported := false }

/-- The interface of the attributes, all of them optional. -/
def attributesDeclaration (block : ComponentBlock) : Interface :=
  { name := block.attributesInterface
    bases := [baseAttributes]
    properties := block.attributes.map fun declared =>
      { name := declared.name, type := declared.type, optional := true }
    exported := true }

/-- The additions to the global scope. -/
def globalScope (block : ComponentBlock) : Declaration :=
  .scope none <|
    [.interface block.element, block.constructorVariable] ++
    (block.registrations.map fun (map, tag, interface) => .interface (entry map tag interface)) ++
    [.scope (some elementNamespace)
        [.interface (entry "IntrinsicElements" block.tagName
          (attributesNamespace ++ "." ++ block.attributesInterface))],
      .scope (some attributesNamespace) [.interface block.attributesDeclaration]]

/-- The layout of the block. -/
def fragments (block : ComponentBlock) : List Fragment :=
  block.classImport.fragments ++ [.blank] ++ block.globalScope.fragments

/-- The text of a block that stands alone. -/
def text (block : ComponentBlock) : String :=
  Fragment.render .standard block.fragments

end ComponentBlock

end ElementTypings
