/-!
# Places in a text

A place in a text is named by the number of bytes before it. A reader goes through a text character
by character, so a cursor keeps what is still to be read and how many bytes were read.

The part of a text between two byte offsets is a text only if both offsets lie between characters.
`slice?` finds such a part and nothing else; in particular it finds the middle one of three texts
between the byte counts of the first and of the first two (`slice?_size`). The occurrences of a text
in another are found from left to right and without overlap.

A reader reports a place as a line and a column; a label wants the offset of a byte. Both count
bytes: the column is the number of bytes consumed of the line, so the offset of a place is that of
the last consumed byte.
-/

namespace ElementTypings.Text

/-- The part of a text that is still to be read, and the number of bytes before it. -/
structure Cursor where
  rest : List Char
  index : Nat
deriving DecidableEq, Repr

namespace Cursor

/-- The start of a text. -/
def start (text : String) : Cursor :=
  { rest := text.toList, index := 0 }

/-- The cursor behind the next character, if there is one. -/
def advance (cursor : Cursor) : Cursor :=
  match cursor.rest with
  | [] => cursor
  | char :: rest => { rest, index := cursor.index + char.utf8Size }

/-- The number of bytes in some characters. -/
def size (text : List Char) : Nat :=
  text.foldr (fun char total => char.utf8Size + total) 0

/-- The cursor behind the characters that satisfy a condition. -/
def dropWhile (condition : Char → Bool) (cursor : Cursor) : Cursor :=
  { rest := cursor.rest.dropWhile condition
    index := cursor.index + size (cursor.rest.takeWhile condition) }

/-- The number of bytes that remain. -/
def remaining (cursor : Cursor) : Nat :=
  size cursor.rest

end Cursor

/-! ### Cutting a text -/

/-- The text behind its first `count` bytes, if a character ends there. -/
def dropBytes? : (count : Nat) → (text : List Char) → Option (List Char)
  | 0, text => some text
  | _ + 1, [] => none
  | count + 1, char :: rest =>
    if char.utf8Size ≤ count + 1 then dropBytes? (count + 1 - char.utf8Size) rest else none

/-- The first `count` bytes of a text, if a character ends there. -/
def takeBytes? : (count : Nat) → (text : List Char) → Option (List Char)
  | 0, _ => some []
  | _ + 1, [] => none
  | count + 1, char :: rest =>
    if char.utf8Size ≤ count + 1 then
      (takeBytes? (count + 1 - char.utf8Size) rest).map (char :: ·)
    else none

/-- The part of a text from one byte offset up to another. -/
def slice? (text : List Char) (start stop : Nat) : Option (List Char) :=
  if start ≤ stop then (dropBytes? start text).bind (takeBytes? (stop - start)) else none

theorem size_cons (char : Char) (text : List Char) :
    Cursor.size (char :: text) = char.utf8Size + Cursor.size text := rfl

theorem size_append (before after : List Char) :
    Cursor.size (before ++ after) = Cursor.size before + Cursor.size after := by
  induction before with
  | nil => simp [Cursor.size]
  | cons char before ih => rw [List.cons_append, size_cons, size_cons, ih, Nat.add_assoc]

/-- The byte count of a text that begins with a character, as a successor. -/
private theorem exists_size_cons (char : Char) (text : List Char) :
    ∃ count, Cursor.size (char :: text) = count + 1 ∧ char.utf8Size ≤ count + 1 ∧
      count + 1 - char.utf8Size = Cursor.size text := by
  have positive := char.utf8Size_pos
  have size := size_cons char text
  exact ⟨Cursor.size (char :: text) - 1, by omega, by omega, by omega⟩

/-- Dropping the bytes of a beginning leaves the rest. -/
theorem dropBytes?_size (before after : List Char) :
    dropBytes? (Cursor.size before) (before ++ after) = some after := by
  induction before with
  | nil => exact dropBytes?.eq_1 after
  | cons char before ih =>
    obtain ⟨count, size, within, remaining⟩ := exists_size_cons char before
    rw [size, List.cons_append, dropBytes?, if_pos within, remaining, ih]

/-- Taking the bytes of a beginning gives it back. -/
theorem takeBytes?_size (before after : List Char) :
    takeBytes? (Cursor.size before) (before ++ after) = some before := by
  induction before with
  | nil => exact takeBytes?.eq_1 after
  | cons char before ih =>
    obtain ⟨count, size, within, remaining⟩ := exists_size_cons char before
    rw [size, List.cons_append, takeBytes?, if_pos within, remaining, ih]
    rfl

/-- The part between the byte counts of the first and of the first two of three texts is the
second. -/
theorem slice?_size (before middle after : List Char) :
    slice? (before ++ (middle ++ after)) (Cursor.size before)
      (Cursor.size before + Cursor.size middle) = some middle := by
  rw [slice?, if_pos (Nat.le_add_right _ _), dropBytes?_size, Nat.add_sub_cancel_left]
  exact takeBytes?_size middle after

/-! ### Finding a text -/

/-- The offsets of the occurrences in a text that starts at the offset `index`, of whose characters
the first `skip` belong to an occurrence that was found already. -/
def occurrencesFrom (needle : List Char) : (skip index : Nat) → List Char → List Nat
  | _, _, [] => []
  | skip + 1, index, char :: rest => occurrencesFrom needle skip (index + char.utf8Size) rest
  | 0, index, char :: rest =>
    if needle.isPrefixOf (char :: rest) then
      index :: occurrencesFrom needle (needle.length - 1) (index + char.utf8Size) rest
    else occurrencesFrom needle 0 (index + char.utf8Size) rest

/-- The offsets of the occurrences of a text, which is not empty. -/
def occurrences (needle text : String) : List Nat :=
  occurrencesFrom needle.toList 0 0 text.toList

/-! ### Lines and columns -/

/-- A place in a text: lines are counted from one, and the column is the number of bytes of the
line that lie before the place. -/
structure Position where
  line : Nat
  column : Nat
deriving DecidableEq, Repr

/-- The byte that ends a line. -/
def newline : UInt8 := 10

namespace Position

/-- The place reached after the first `index` bytes. -/
def ofIndex (bytes : List UInt8) (index : Nat) : Position :=
  let before := bytes.take index
  { line := before.count newline + 1
    column := (before.reverse.takeWhile (· != newline)).length }

/-- The number of bytes in the first `count` lines, line ends included. -/
def linesLength : (count : Nat) → (bytes : List UInt8) → Nat
  | 0, _ => 0
  | _, [] => 0
  | count + 1, byte :: rest =>
    1 + if byte = newline then linesLength count rest else linesLength (count + 1) rest

/-- The offset of the last byte before a place, never beyond the end of the text; line zero is no
place. -/
def offset? (bytes : List UInt8) (position : Position) : Option Nat :=
  if position.line = 0 then none
  else some (min (linesLength (position.line - 1) bytes + (position.column - 1)) bytes.length)

end Position

end ElementTypings.Text
