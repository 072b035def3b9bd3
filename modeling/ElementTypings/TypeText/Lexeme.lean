import ElementTypings.Text.Classes

/-!
# The lexemes of a type text

The type of an attribute is known as text only. `lexemes` cuts such a text from left to right into
pieces and marks the identifiers that refer to a type: not those inside a string or the literal
part of a template, not a name after a dot, and not the key of a property. Every text has lexemes,
well-formed or not, and nothing is lost: `Lexeme.Step.next_text` says so of one step, and
`Lexeme.flatMap_text_all` of the whole text.
-/

namespace ElementTypings.TypeText

/-- Whether the character may start an identifier. -/
def isIdentifierStart (char : Char) : Bool :=
  Text.isAlphabetic char || char == '_' || char == '$'

/-- Whether the character may continue an identifier. -/
def isIdentifierContinue (char : Char) : Bool :=
  Text.isAlphabetic char || Text.isNumeric char || char == '_' || char == '$'

/-- What surrounds a place and changes how characters are read there. -/
inductive Nesting where
  /-- The body of an object type, where a name before a colon is a key. -/
  | braces
  /-- The literal part of a template. -/
  | template
  /-- A placeholder in a template, which holds a type. -/
  | placeholder
deriving DecidableEq, Repr

/-- What the scanner knows of the text that it has read. -/
structure Context where
  /-- What surrounds the place, the innermost first. -/
  nesting : List Nesting
  /-- The quote that closes the string that the place lies in. -/
  quote : Option Char
  /-- Whether the last character that is not white space is a dot. -/
  afterDot : Bool
  /-- Whether a name at this place may be the key of a property. -/
  keyPosition : Bool
deriving DecidableEq, Repr

namespace Context

/-- The context at the start of a text. -/
def start : Context :=
  { nesting := [], quote := none, afterDot := false, keyPosition := false }

/-- The context after a character outside strings, templates and identifiers. -/
def afterMark (context : Context) (char : Char) : Context :=
  let opened :=
    match char with
    | '\'' => { context with quote := some '\'' }
    | '"' => { context with quote := some '"' }
    | '\x60' => { context with nesting := .template :: context.nesting }
    | '{' => { context with nesting := .braces :: context.nesting }
    | '}' =>
      match context.nesting with
      | .braces :: outer | .placeholder :: outer => { context with nesting := outer }
      | _ => context
    | _ => context
  if Text.isBlank char then opened
  else
    { opened with
      afterDot := char == '.'
      keyPosition :=
        match char with
        | '{' => true
        | ';' | ',' => opened.nesting.head? == some .braces
        | _ => false }

end Context

/-- A piece of a type text. -/
structure Lexeme where
  text : List Char
  /-- Whether the piece is an identifier that refers to a type. -/
  isReference : Bool
deriving DecidableEq, Repr

namespace Lexeme

/-- A piece that refers to nothing. -/
def verbatim (text : List Char) : Lexeme :=
  { text, isReference := false }

/-- Whether the text goes on with the type annotation of a property: a colon, or a question mark
and a colon, after any white space. -/
def startsAnnotation (text : List Char) : Bool :=
  match Text.dropBlanks text with
  | ':' :: _ => true
  | '?' :: ':' :: _ => true
  | _ => false

/-- One step of the scanner: a lexeme, the context after it, and the text that remains. -/
structure Step where
  lexeme : Lexeme
  context : Context
  rest : List Char

namespace Step

/-- A backslash inside a literal takes the character after it along. -/
def escape (context : Context) : List Char → Step
  | [] => ⟨verbatim ['\\'], context, []⟩
  | escaped :: rest => ⟨verbatim ['\\', escaped], context, rest⟩

/-- The step inside a string that `quote` closes. -/
def inString (context : Context) (quote char : Char) (rest : List Char) : Step :=
  if char = '\\' then escape context rest
  else if char = quote then ⟨verbatim [char], { context with quote := none }, rest⟩
  else ⟨verbatim [char], context, rest⟩

/-- The step inside the literal part of a template. -/
def inTemplate (context : Context) (char : Char) (rest : List Char) : Step :=
  match char, rest with
  | '\\', rest => escape context rest
  | '\x60', rest => ⟨verbatim ['\x60'], { context with nesting := context.nesting.tail }, rest⟩
  | '$', '{' :: rest =>
    ⟨verbatim ['$', '{'],
      { context with
        nesting := .placeholder :: context.nesting
        afterDot := false
        keyPosition := false },
      rest⟩
  | char, rest => ⟨verbatim [char], context, rest⟩

/-- The step at the first character of an identifier. -/
def identifier (context : Context) (char : Char) (rest : List Char) : Step :=
  let word := char :: rest.takeWhile isIdentifierContinue
  let after := rest.dropWhile isIdentifierContinue
  let isKey := context.keyPosition && startsAnnotation after
  { lexeme := { text := word, isReference := !context.afterDot && !isKey }
    context :=
      { context with
        afterDot := false
        keyPosition := context.keyPosition && word == "readonly".toList }
    rest := after }

/-- The step of the scanner at a character. -/
def next (context : Context) (char : Char) (rest : List Char) : Step :=
  match context.quote with
  | some quote => inString context quote char rest
  | none =>
    if context.nesting.head? = some .template then inTemplate context char rest
    else if isIdentifierStart char then identifier context char rest
    else ⟨verbatim [char], context.afterMark char, rest⟩

/-- An escape takes its backslash and the character behind, if there is one. -/
private theorem escape_text (context : Context) (rest : List Char) :
    (escape context rest).lexeme.text ++ (escape context rest).rest = '\\' :: rest := by
  cases rest <;> rfl

/-- A step splits the text: the lexeme followed by what remains is what there was. -/
theorem next_text (context : Context) (char : Char) (rest : List Char) :
    (next context char rest).lexeme.text ++ (next context char rest).rest = char :: rest := by
  unfold next
  split
  · unfold inString
    split
    · next same => rw [same]; exact escape_text context rest
    · split <;> rfl
  · split
    · unfold inTemplate
      split
      · exact escape_text context rest
      · rfl
      · rfl
      · rfl
    · split
      · simp [identifier, List.takeWhile_append_dropWhile]
      · rfl

/-- A step takes at least one character. -/
theorem length_rest_next (context : Context) (char : Char) (rest : List Char) :
    (next context char rest).rest.length ≤ rest.length := by
  unfold next
  split
  · unfold inString escape
    split
    · split <;> simp
    · split <;> simp
  · split
    · unfold inTemplate escape
      split <;> (try split) <;> simp
    · split
      · exact (List.dropWhile_suffix _).length_le
      · simp

end Step

/-- The lexemes of a text that is read in the given context. -/
def all (context : Context) : List Char → List Lexeme
  | [] => []
  | char :: rest =>
    let step := Step.next context char rest
    step.lexeme :: all step.context step.rest
termination_by text => text.length
decreasing_by
  have := Step.length_rest_next context char rest
  simp only [List.length_cons]
  omega

/-- The lexemes of a text, put together again, are the text. -/
theorem flatMap_text_all (context : Context) (text : List Char) :
    (all context text).flatMap Lexeme.text = text := by
  fun_induction all context text with
  | case1 => rfl
  | case2 context char rest step ih =>
    rw [List.flatMap_cons, ih]
    exact Step.next_text context char rest

end Lexeme

/-- The lexemes of a type text. -/
def lexemes (text : String) : List Lexeme :=
  Lexeme.all Context.start text.toList

end ElementTypings.TypeText
