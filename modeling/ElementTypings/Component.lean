import ElementTypings.OrderedMap
import ElementTypings.Text.Casing
import ElementTypings.Text.Split

/-!
# Components

What is known of a custom element: its tag, the class that implements it, the file the class stands
in, and the members of the class. A member that is reflected to an attribute of the element is
observable and has a type; the type is kept as text beside the names it mentions and where each of
them is declared.

A custom element is registered under a tag of words joined by hyphens. The declarations of the
element use the tag in Pascal case: lower case throughout, then the first letter of every word
capitalized and the hyphens dropped.
-/

namespace ElementTypings

/-- Where a type that a member mentions is declared. -/
inductive TypeLocation where
  /-- An ambient type, which needs no import. -/
  | global
  /-- The file of the component itself. -/
  | ownFile
  /-- Another module. -/
  | module
  /-- A place that is not known; it is kept as it was written. -/
  | unknown (kind : String)
deriving DecidableEq, Repr

namespace TypeLocation

/-- The location that a word stands for. -/
def ofWord : String → TypeLocation
  | "global" => global
  | "local" => ownFile
  | "import" => module
  | "imported" => module
  | kind => unknown kind

/-- The word that is written for a location. -/
def word : TypeLocation → String
  | global => "global"
  | ownFile => "local"
  | module => "import"
  | unknown kind => kind

/-- Reading the written word gives the location back, unless it is an unknown one that is spelled
like a known one. -/
theorem ofWord_word (location : TypeLocation)
    (spelled : ∀ kind, location = unknown kind → ofWord kind = unknown kind) :
    ofWord location.word = location := by
  cases location with
  | unknown kind => exact spelled kind rfl
  | _ => rfl

end TypeLocation

/-- A type that the text of another type mentions. -/
structure TypeReference where
  name : String
  location : TypeLocation
  /-- The path of the module, for a type that is imported. -/
  path : Option String
deriving DecidableEq, Repr

/-- The type of an attribute, as text, with the types it mentions. -/
structure AttributeType where
  text : String
  references : List TypeReference
deriving DecidableEq, Repr

/-- What a member of a component is. -/
inductive MemberKind where
  | property
  | mutableProperty
  | contextProperty
  | connectProperty
  | state
  | element
  | method
deriving DecidableEq, Repr

namespace MemberKind

/-- Every kind of member. -/
def all : List MemberKind :=
  [property, mutableProperty, contextProperty, connectProperty, state, element, method]

/-- The word that is written for a kind. -/
def word : MemberKind → String
  | property => "prop"
  | mutableProperty => "propMutable"
  | contextProperty => "propContext"
  | connectProperty => "propConnect"
  | state => "state"
  | element => "element"
  | method => "method"

/-- The kind that a word stands for. -/
def ofWord? (word : String) : Option MemberKind :=
  all.find? fun kind => kind.word == word

/-- Reading the written word gives the kind back. -/
theorem ofWord?_word (kind : MemberKind) : ofWord? kind.word = some kind := by
  cases kind <;> rfl

/-- Whether members of the kind are reflected to an attribute. -/
def isObservable : MemberKind → Bool
  | property | mutableProperty => true
  | _ => false

end MemberKind

/-- A member of a component. -/
structure Member where
  kind : MemberKind
  type : Option AttributeType
deriving DecidableEq, Repr

/-- A custom element. -/
structure Component where
  tagName : String
  className : String
  /-- The members by name, as the class declares them. -/
  members : OrderedMap Member
  /-- The file that declares the class. -/
  sourcePath : String
deriving DecidableEq

namespace Component

/-- The members that are reflected to an attribute, in order. -/
def observableMembers (component : Component) : List (String × Member) :=
  component.members.entries.filter fun entry => entry.2.kind.isObservable

end Component

namespace TagName

/-- The tag in Pascal case: `my-button` gives `MyButton`. -/
def pascalCase (tag : String) : String :=
  String.ofList ((Text.splitOn '-' (Text.lower tag.toList)).flatMap Text.capitalize)

end TagName

end ElementTypings
