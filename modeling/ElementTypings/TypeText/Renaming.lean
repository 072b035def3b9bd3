import ElementTypings.OrderedMap
import ElementTypings.Text.Offset
import ElementTypings.TypeText.Lexeme

/-!
# Renaming the references of a type text

All declarations share one document, so a type that a component knows by one name may have to be
called by another there. `rename` gives every reference in a type text its new name and leaves the
rest of the text as it is. The replacement is simultaneous: a new name is never looked up again.

`rename` lists the pieces of a type text before it gives the references among them their new names.
`renameInOnePass` keeps no pieces: it goes through the characters once, looks every name up where it
meets it and adds to the renamed text as it goes. The names are cut out of the text by byte offsets,
and a cut inside a character would leave it without a result.
-/

namespace ElementTypings.TypeText

/-- New names for types, by the names they replace. -/
abbrev Bindings := OrderedMap String

/-- Whether every name is bound to itself. -/
def isIdentity (bindings : Bindings) : Bool :=
  bindings.entries.all fun entry => entry.1 == entry.2

/-- The text of a lexeme under the bindings. -/
def Lexeme.renamed (bindings : Bindings) (lexeme : Lexeme) : List Char :=
  if lexeme.isReference then
    match bindings.lookup? (String.ofList lexeme.text) with
    | some bound => bound.toList
    | none => lexeme.text
  else lexeme.text

/-- The type text with every reference called by its new name. -/
def rename (text : String) (bindings : Bindings) : String :=
  if isIdentity bindings then text
  else String.ofList ((lexemes text).flatMap (Lexeme.renamed bindings))

/-! ### Renaming in a single pass -/

/-- What is written for a name that is read in the context and has `after` behind it. -/
def writtenName (bindings : Bindings) (context : Context) (name after : List Char) : List Char :=
  let isKey := context.keyPosition && Lexeme.startsAnnotation after
  match bindings.lookup? (String.ofList name) with
  | some bound => if !context.afterDot && !isKey then bound.toList else name
  | none => name

/-- Where an identifier that starts at the offset ends. -/
def identifierEnd (offset : Nat) (char : Char) (rest : List Char) : Nat :=
  offset + char.utf8Size + Text.Cursor.size (rest.takeWhile isIdentifierContinue)

/-- Reads the rest of a text. What was written for the text so far is `written`, and the rest begins
`offset` bytes into the text. -/
def renameOnward (text : List Char) (bindings : Bindings) (context : Context)
    (written : List Char) (offset : Nat) : (rest : List Char) → Option (List Char)
  | [] => some written
  | char :: rest =>
    match context.quote with
    | some quote =>
      if char = '\\' then
        match rest with
        | [] => some (written ++ [char])
        | escaped :: rest =>
          renameOnward text bindings context (written ++ [char, escaped])
            (offset + char.utf8Size + escaped.utf8Size) rest
      else if char = quote then
        renameOnward text bindings { context with quote := none } (written ++ [char])
          (offset + char.utf8Size) rest
      else
        renameOnward text bindings context (written ++ [char]) (offset + char.utf8Size) rest
    | none =>
      if context.nesting.head? = some .template then
        match char, rest with
        | '\\', [] => some (written ++ ['\\'])
        | '\\', escaped :: rest =>
          renameOnward text bindings context (written ++ ['\\', escaped])
            (offset + '\\'.utf8Size + escaped.utf8Size) rest
        | '\x60', rest =>
          renameOnward text bindings { context with nesting := context.nesting.tail }
            (written ++ ['\x60']) (offset + '\x60'.utf8Size) rest
        | '$', '{' :: rest =>
          renameOnward text bindings
            { context with
              nesting := .placeholder :: context.nesting
              afterDot := false
              keyPosition := false }
            (written ++ ['$', '{']) (offset + '$'.utf8Size + '{'.utf8Size) rest
        | char, rest =>
          renameOnward text bindings context (written ++ [char]) (offset + char.utf8Size) rest
      else if isIdentifierStart char then
        match Text.slice? text offset (identifierEnd offset char rest),
          Text.dropBytes? (identifierEnd offset char rest) text with
        | some name, some after =>
          renameOnward text bindings
            { context with
              afterDot := false
              keyPosition := context.keyPosition && name == "readonly".toList }
            (written ++ writtenName bindings context name after) (identifierEnd offset char rest)
            (rest.dropWhile isIdentifierContinue)
        | _, _ => none
      else
        renameOnward text bindings (context.afterMark char) (written ++ [char])
          (offset + char.utf8Size) rest
termination_by rest => rest.length
decreasing_by
  all_goals try have := (List.dropWhile_suffix (l := rest) isIdentifierContinue).length_le
  all_goals simp only [List.length_cons]; omega

/-- The type text with every reference called by its new name, written in one pass. A text is not
read at all if every name is bound to itself. -/
def renameInOnePass (text : String) (bindings : Bindings) : Option String :=
  if isIdentity bindings then some text
  else (renameOnward text.toList bindings Context.start [] 0 text.toList).map String.ofList

end ElementTypings.TypeText
