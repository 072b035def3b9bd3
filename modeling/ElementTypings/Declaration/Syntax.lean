import ElementTypings.Layout

/-!
# Declaration syntax

The statements that a declaration document is made of: imports, interfaces, namespaces and
variables. `Declaration.fragments` lays one out; the exact spelling of every statement is fixed
here and nowhere else.
-/

namespace ElementTypings

/-- One name of a named import, with the local name it is bound to if that differs. -/
structure ImportSpecifier where
  name : String
  localName : Option String
deriving DecidableEq, Repr

namespace ImportSpecifier

/-- The specifier that imports `name` and binds it as `bound`; the local name is left out where it
would repeat the name. -/
def binding (name bound : String) : ImportSpecifier :=
  { name, localName := if bound = name then none else some bound }

/-- The specifier as an import lists it. -/
def text (specifier : ImportSpecifier) : String :=
  match specifier.localName with
  | some bound => specifier.name ++ " as " ++ bound
  | none => specifier.name

end ImportSpecifier

/-- An import statement. Without specifiers the module is imported for its effect alone. -/
structure ImportStatement where
  module : String
  specifiers : List ImportSpecifier
  /-- Whether every specifier stands on a line of its own. -/
  multiline : Bool
deriving DecidableEq, Repr

namespace ImportStatement

/-- The statement that imports a module for its effect. -/
def sideEffect (module : String) : ImportStatement :=
  { module, specifiers := [], multiline := false }

/-- The layout of the statement. -/
def fragments (statement : ImportStatement) : List Fragment :=
  let source := "'" ++ statement.module ++ "';"
  if statement.specifiers.isEmpty then [.line ("import " ++ source)]
  else if statement.multiline then
    [.block "import \x7b" (statement.specifiers.map fun specifier => .line (specifier.text ++ ","))
      (some ("\x7d from " ++ source))]
  else
    [.line ("import \x7b " ++ ", ".intercalate (statement.specifiers.map ImportSpecifier.text) ++
      " \x7d from " ++ source)]

end ImportStatement

/-- A property of an interface. -/
structure Property where
  name : String
  type : String
  optional : Bool
deriving DecidableEq, Repr

namespace Property

/-- Whether the character may start a property key that is written without quotes. -/
def isKeyStart (char : Char) : Bool :=
  char.isAlpha || char == '_' || char == '$'

/-- Whether the character may continue a property key that is written without quotes. -/
def isKeyContinue (char : Char) : Bool :=
  char.isAlphanum || char == '_' || char == '$'

/-- Whether the name can be a property key without quotes. -/
def isBareKey (name : String) : Bool :=
  match name.toList with
  | [] => false
  | first :: later => isKeyStart first && later.all isKeyContinue

/-- The property's key, between quotes unless it is an identifier. -/
def key (name : String) : String :=
  if isBareKey name then name else "\"" ++ name ++ "\""

/-- The property as an interface declares it. -/
def text (property : Property) : String :=
  key property.name ++ (if property.optional then "?" else "") ++ ": " ++ property.type ++ ";"

end Property

/-- An interface declaration. -/
structure Interface where
  name : String
  bases : List String
  properties : List Property
  exported : Bool
deriving DecidableEq, Repr

namespace Interface

/-- The interface up to its body. -/
def header (interface : Interface) : String :=
  (if interface.exported then "export " else "") ++ "interface " ++ interface.name ++
    (if interface.bases.isEmpty then "" else " extends " ++ ", ".intercalate interface.bases)

/-- The layout of the interface; without properties it takes one line. -/
def fragments (interface : Interface) : List Fragment :=
  if interface.properties.isEmpty then [.line (interface.header ++ " \x7b\x7d")]
  else
    [.braced (interface.header ++ " \x7b")
      (interface.properties.map fun property => .line property.text)]

end Interface

/-- A member of a variable's object type. -/
inductive VariableMember where
  /-- A property with its type. -/
  | property (name type : String)
  /-- A constructor without parameters, with the type that it makes. -/
  | constructor (type : String)
deriving DecidableEq, Repr

namespace VariableMember

/-- The member as the object type lists it. -/
def text : VariableMember → String
  | property name type => name ++ ": " ++ type ++ ";"
  | constructor type => "new (): " ++ type ++ ";"

end VariableMember

/-- A declaration, as a tree. -/
inductive Declaration where
  /-- An import statement. -/
  | importStatement (statement : ImportStatement)
  /-- An interface. -/
  | interface (shape : Interface)
  /-- A namespace with its items; without a name it is the global scope. -/
  | scope (name : Option String) (items : List Declaration)
  /-- A variable with an object type. -/
  | objectVariable (name : String) (members : List VariableMember)
  /-- Any other code. -/
  | fragment (code : Fragment)

namespace Declaration

/-- The first line of a namespace. -/
def scopeHeader : Option String → String
  | some name => "namespace " ++ name ++ " \x7b"
  | none => "declare global \x7b"

mutual

/-- The layout of a declaration. -/
def fragments : Declaration → List Fragment
  | .importStatement statement => statement.fragments
  | .interface shape => shape.fragments
  | .scope name items => [.braced (scopeHeader name) (allFragments items)]
  | .objectVariable name members =>
    [.block ("var " ++ name ++ ": \x7b") (members.map fun member => .line member.text)
      (some "\x7d;")]
  | .fragment code => [code]

/-- The layout of declarations one after another. -/
def allFragments : List Declaration → List Fragment
  | [] => []
  | first :: later => first.fragments ++ allFragments later

end

/-- The text of a declaration that stands alone. -/
def text (declaration : Declaration) : String :=
  Fragment.render .standard declaration.fragments

end Declaration

end ElementTypings
