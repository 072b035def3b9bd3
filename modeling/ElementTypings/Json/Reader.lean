import ElementTypings.Json.Fault
import ElementTypings.OrderedMap
import ElementTypings.Text.Offset

/-!
# Reading JSON

A reader takes values of known types from the front of a document. It stops at the first fault. The
place of a fault is a number of bytes: that of the bytes consumed, or one more where the next
character is to blame.

Faults of a container's content as a whole (a field missing or repeated, too few elements) become
known inside the container, but their place is behind its closing bracket if that follows.
-/

namespace ElementTypings.Json

open Text (Cursor)

/-- Whether the character may stand between the parts of a document. -/
def isSpace (char : Char) : Bool :=
  char == ' ' || char == '\n' || char == '\t' || char == '\r'

/-- The index that blames the next byte, if there is one. -/
def blamed (cursor : Cursor) : Nat :=
  if cursor.rest.isEmpty then cursor.index else cursor.index + 1

/-- The index behind a closing bracket that follows, or at what follows in its place. -/
def behind (closing : Char) (cursor : Cursor) : Nat :=
  let next := cursor.dropWhile isSpace
  if next.rest.head? = some closing then next.index + 1 else next.index

/-- A fault on its way out of a reader. -/
inductive Problem where
  /-- A fault with its place. -/
  | placed (fault : Fault) (index : Nat)
  /-- A fault of the content of the container that the cursor is in. -/
  | content (fault : Fault) (cursor : Cursor)

/-- Takes a value from the front of a document. -/
abbrev Reader := StateT Cursor (Except Problem)

namespace Reader

/-- Refuses the document for what was consumed last. -/
def fail {Value : Type} (fault : Fault) : Reader Value := fun cursor =>
  .error (.placed fault cursor.index)

/-- Refuses the document for its next character. -/
def blame {Value : Type} (fault : Fault) : Reader Value := fun cursor =>
  .error (.placed fault (blamed cursor))

/-- Refuses the content of the container. -/
def refuse {Value : Type} (fault : Fault) : Reader Value := fun cursor =>
  .error (.content fault cursor)

/-- The next character. -/
def peek : Reader (Option Char) := do
  return (← get).rest.head?

/-- Drops the next character. -/
def advance : Reader Unit :=
  modify Cursor.advance

/-- The next character that is no space, the spaces before it dropped. -/
def peekToken : Reader (Option Char) := do
  modify (Cursor.dropWhile isSpace)
  peek

/-- Reads the remaining letters of a word. -/
def letters : List Char → Reader Unit
  | [] => pure ()
  | letter :: later => do
    match ← peek with
    | none => fail .endOfValue
    | some char =>
      if char = letter then
        advance
        letters later
      else blame .expectedWord

/-- Reads the decimal digits that follow. -/
def digits : Reader (List Nat) := fun cursor =>
  let found := cursor.rest.takeWhile Char.isDigit
  .ok (found.map fun digit => digit.toNat - '0'.toNat,
    { rest := cursor.rest.dropWhile Char.isDigit, index := cursor.index + found.length })

end Reader

end ElementTypings.Json
