import ElementTypings.TypeText.Lexeme

/-!
# Type expressions

The types that an attribute may have, as trees: references to types by qualified names, with or
without arguments, unions, parentheses, arrays, tuples, indexed access, string and template
literals, conditional types and object types with properties and methods. A tree knows its text as
a list of pieces (`TypeExpression.pieces`) in which every word carries the role that it plays for
the type, so that a text with some of the words replaced is `write` under another naming of the
words.

White space varies where it decides how an object type is read: around the colons and question
marks of its members and between the members. Elsewhere it is printed as single spaces.
-/

namespace ElementTypings.TypeText

/-! ## Tokens -/

/-- An identifier. -/
structure Word where
  first : Char
  rest : List Char
  starts : isIdentifierStart first := by decide
  continues : rest.all isIdentifierContinue := by decide

def Word.text (word : Word) : List Char :=
  word.first :: word.rest

/-- The word `Foo`. -/
def Word.foo : Word :=
  { first := 'F', rest := ['o', 'o'] }

/-- The word `Bar`. -/
def Word.bar : Word :=
  { first := 'B', rest := ['a', 'r'] }

/-- The word `Baz`. -/
def Word.baz : Word :=
  { first := 'B', rest := ['a', 'z'] }

/-- A word that belongs to the syntax, as a modifier of properties or in conditional types. -/
inductive Keyword where
  | readonly
  | extends

def Keyword.word : Keyword → Word
  | .readonly => { first := 'r', rest := "eadonly".toList }
  | .extends => { first := 'e', rest := "xtends".toList }

/-- White space, possibly none. -/
structure Blanks where
  text : List Char
  blank : text.all Text.isBlank := by decide

namespace Blanks

def none : Blanks := { text := [] }

def space : Blanks := { text := [' '] }

end Blanks

/-- Whether a quote right after the text closes the string that the text began, and no quote
inside does: a backslash takes the character after it along. -/
def isQuotedText (quote : Char) : List Char → Bool
  | [] => true
  | ['\\'] => false
  | '\\' :: _ :: rest => isQuotedText quote rest
  | char :: rest => char != quote && isQuotedText quote rest

structure StringLiteral where
  quote : Char
  text : List Char
  isQuote : quote = '\'' ∨ quote = '"' := by decide
  closed : isQuotedText quote text := by decide

def StringLiteral.written (literal : StringLiteral) : List Char :=
  literal.quote :: literal.text ++ [literal.quote]

/-- Whether the text is literal throughout as a part of a template: nothing in it closes the
template or opens a placeholder. -/
def isTemplateText : List Char → Bool
  | [] => true
  | ['\\'] => false
  | '\\' :: _ :: rest => isTemplateText rest
  | '$' :: '{' :: _ => false
  | char :: rest => char != '\x60' && isTemplateText rest

structure TemplateText where
  text : List Char
  literal : isTemplateText text := by decide

structure Colon where
  before : Blanks
  after : Blanks

def Colon.text (colon : Colon) : List Char :=
  colon.before.text ++ ':' :: colon.after.text

/-- What stands between the name of a property and its type: a colon, after a question mark if the
property is optional. -/
structure Ascription where
  /-- The white space before the question mark. -/
  question : Option Blanks
  colon : Colon

namespace Ascription

def text (ascription : Ascription) : List Char :=
  match ascription.question with
  | some before => before.text ++ '?' :: ascription.colon.text
  | none => ascription.colon.text

/-- Whether the question mark, if there is one, touches the colon. -/
def isDirect (ascription : Ascription) : Bool :=
  ascription.question.isNone || ascription.colon.before.text.isEmpty

end Ascription

inductive SeparatorMark where
  | semicolon
  | comma
  | lineBreak
deriving DecidableEq

def SeparatorMark.char : SeparatorMark → Char
  | .semicolon => ';'
  | .comma => ','
  | .lineBreak => '\n'

structure Separator where
  before : Blanks
  mark : SeparatorMark
  after : Blanks

namespace Separator

def text (separator : Separator) : List Char :=
  separator.before.text ++ separator.mark.char :: separator.after.text

/-- Whether a mark that can be seen separates the members, and not just the end of a line. -/
def isVisible (separator : Separator) : Bool :=
  separator.mark != .lineBreak

end Separator

/-- What stands between the last member and the closing brace. -/
inductive Closing where
  | blanks (inside : Blanks)
  | separator (last : Separator)

def Closing.text : Closing → List Char
  | .blanks inside => inside.text
  | .separator last => last.text

/-- What stands before the type of a parameter. -/
structure ParameterName where
  /-- Whether the parameter takes the remaining arguments. -/
  spread : Bool
  name : Word
  ascription : Ascription

/-! ## Trees -/

mutual

inductive TypeExpression where
  /-- A type by its qualified name, with its type arguments. -/
  | named (head : Word) (path : List Word) (arguments : List TypeExpression)
  | union (left right : TypeExpression)
  | parenthesized (inner : TypeExpression)
  | array (element : TypeExpression)
  | indexed (object : TypeExpression) (key : StringLiteral)
  | tuple (elements : List TypeExpression)
  | literal (string : StringLiteral)
  /-- A template that starts with a text and goes on with placeholders, each before a text. -/
  | template (start : TemplateText) (spans : List (TypeExpression × TemplateText))
  | conditional (check bound positive negative : TypeExpression)
  | emptyObject (inside : Blanks)
  | object (opening : Blanks) (first : Member) (others : List (Separator × Member))
    (closing : Closing)

inductive Member where
  | property (readonly : Bool) (name : Word) (ascription : Ascription) (type : TypeExpression)
  | method (name : Word) (gap : Blanks) (parameters : List (ParameterName × TypeExpression))
    (colon : Colon) (result : TypeExpression)

end

/-! ## Texts -/

/-- How the name of a member stands in the text. -/
structure MemberForm where
  /-- Whether an opening brace, a semicolon or a comma stands before the member, rather than a
  line break. -/
  marked : Bool
  /-- What follows the name of a property, and nothing if the member is a method. -/
  ascription : Option Ascription

/-- Whether the member is a property with a mark before it and its colon, or question mark and
colon in one, behind its name. -/
def MemberForm.isKey (form : MemberForm) : Bool :=
  form.marked && form.ascription.any Ascription.isDirect

structure ParameterForm where
  isFirst : Bool
  spread : Bool
  ascription : Ascription

/-- The part that a word plays in a type expression. -/
inductive Role where
  /-- A name that refers to a type: one in a type position, up to its first dot. -/
  | reference
  /-- A name after a dot. -/
  | path
  | member (form : MemberForm)
  | parameter (form : ParameterForm)

inductive Piece where
  | verbatim (text : List Char)
  | keyword (fixed : Keyword)
  | word (role : Role) (name : Word)

/-- What the keywords and the other words of a type expression are written as. -/
structure Naming where
  keyword : Keyword → List Char
  word : Role → Word → List Char

def Naming.own : Naming :=
  { keyword := fun keyword => keyword.word.text
    word := fun _ name => name.text }

def Piece.text (naming : Naming) : Piece → List Char
  | .verbatim text => text
  | .keyword fixed => naming.keyword fixed
  | .word role name => naming.word role name

/-- The text of the pieces under a naming of their words. -/
def write (naming : Naming) (pieces : List Piece) : List Char :=
  pieces.flatMap (Piece.text naming)

def pathPieces (path : List Word) : List Piece :=
  path.flatMap fun name => [.verbatim ['.'], .word .path name]

mutual

/-- The text of a type expression in pieces. -/
def TypeExpression.pieces : TypeExpression → List Piece
  | .named head path arguments =>
    .word .reference head :: (pathPieces path ++ argumentPieces arguments)
  | .union left right => left.pieces ++ .verbatim [' ', '|', ' '] :: right.pieces
  | .parenthesized inner => .verbatim ['('] :: (inner.pieces ++ [.verbatim [')']])
  | .array element => element.pieces ++ [.verbatim ['[', ']']]
  | .indexed object key =>
    object.pieces ++ [.verbatim ['['], .verbatim key.written, .verbatim [']']]
  | .tuple elements => .verbatim ['['] :: (listPieces true elements ++ [.verbatim [']']])
  | .literal string => [.verbatim string.written]
  | .template start spans =>
    .verbatim ['\x60'] :: .verbatim start.text :: (spanPieces spans ++ [.verbatim ['\x60']])
  | .conditional check bound positive negative =>
    check.pieces ++ .verbatim [' '] :: .keyword .extends :: .verbatim [' '] ::
      (bound.pieces ++ .verbatim [' ', '?', ' '] ::
        (positive.pieces ++ .verbatim [' ', ':', ' '] :: negative.pieces))
  | .emptyObject inside => [.verbatim ['{'], .verbatim inside.text, .verbatim ['}']]
  | .object opening first others closing =>
    .verbatim ['{'] :: .verbatim opening.text :: (first.pieces true ++
      (otherPieces others ++ [.verbatim closing.text, .verbatim ['}']]))

def argumentPieces : List TypeExpression → List Piece
  | [] => []
  | type :: types =>
    .verbatim ['<'] :: (type.pieces ++ (listPieces false types ++ [.verbatim ['>']]))

def listPieces (isFirst : Bool) : List TypeExpression → List Piece
  | [] => []
  | type :: types =>
    (if isFirst then [] else [.verbatim [',', ' ']]) ++ (type.pieces ++ listPieces false types)

def spanPieces : List (TypeExpression × TemplateText) → List Piece
  | [] => []
  | (type, text) :: spans =>
    .verbatim ['$', '{'] ::
      (type.pieces ++ .verbatim ['}'] :: .verbatim text.text :: spanPieces spans)

def otherPieces : List (Separator × Member) → List Piece
  | [] => []
  | (separator, member) :: others =>
    .verbatim separator.text :: (member.pieces separator.isVisible ++ otherPieces others)

def Member.pieces (marked : Bool) : Member → List Piece
  | .property readonly name ascription type =>
    (if readonly then [.keyword .readonly, .verbatim [' ']] else []) ++
      .word (.member ⟨marked, ascription⟩) name :: .verbatim ascription.text :: type.pieces
  | .method name gap parameters colon result =>
    .word (.member ⟨marked, none⟩) name :: .verbatim gap.text :: .verbatim ['('] ::
      (parameterPieces true parameters ++
        .verbatim [')'] :: .verbatim colon.text :: result.pieces)

def parameterPieces (isFirst : Bool) : List (ParameterName × TypeExpression) → List Piece
  | [] => []
  | (parameter, type) :: parameters =>
    (if isFirst then [] else [.verbatim [',', ' ']]) ++
      ((if parameter.spread then [.verbatim ['.', '.', '.']] else []) ++
        .word (.parameter ⟨isFirst, parameter.spread, parameter.ascription⟩) parameter.name ::
          .verbatim parameter.ascription.text :: (type.pieces ++ parameterPieces false parameters))

end

namespace TypeExpression

/-- The text of a type expression under a naming of its words. -/
def written (type : TypeExpression) (naming : Naming) : String :=
  String.ofList (write naming type.pieces)

def text (type : TypeExpression) : String :=
  type.written .own

end TypeExpression

end ElementTypings.TypeText
