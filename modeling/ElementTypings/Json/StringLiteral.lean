import ElementTypings.Json.Reader
import ElementTypings.Text.Classes

/-!
# String literals of JSON

The characters of a string stand between quotes; a backslash starts an escape, and a character
beyond the first plane may be escaped as two surrogates. `Literal.quoted` writes a string, and
`Reader.stringBody` reads one that was opened. A string that is only passed over is held to less:
its escapes need not name characters.
-/

namespace ElementTypings.Json

open Text (Cursor)

namespace Literal

/-- The character that a letter after a backslash stands for. -/
def escaped? : Char → Option Char
  | '"' => some '"'
  | '\\' => some '\\'
  | '/' => some '/'
  | 'b' => some '\x08'
  | 'f' => some '\x0c'
  | 'n' => some '\n'
  | 'r' => some '\r'
  | 't' => some '\t'
  | _ => none

/-- Whether the unit is the first half of a pair of surrogates. -/
def isLeading (unit : Nat) : Bool :=
  0xD800 ≤ unit && unit ≤ 0xDBFF

/-- Whether the unit is the second half of a pair of surrogates. -/
def isTrailing (unit : Nat) : Bool :=
  0xDC00 ≤ unit && unit ≤ 0xDFFF

/-- The character that a pair of surrogates stands for. -/
def ofSurrogates (leading trailing : Nat) : Char :=
  Char.ofNat (0x10000 + (leading - 0xD800) * 0x400 + (trailing - 0xDC00))

/-- One hexadecimal digit, in lower case. -/
def hexDigit (value : Nat) : Char :=
  Nat.digitChar (value % 16)

/-- A character as a literal holds it. -/
def encodeChar (char : Char) : List Char :=
  match char with
  | '"' => ['\\', '"']
  | '\\' => ['\\', '\\']
  | '\x08' => ['\\', 'b']
  | '\x0c' => ['\\', 'f']
  | '\n' => ['\\', 'n']
  | '\r' => ['\\', 'r']
  | '\t' => ['\\', 't']
  | _ =>
    if char.toNat < 0x20 then
      ['\\', 'u', '0', '0', hexDigit (char.toNat / 16), hexDigit char.toNat]
    else [char]

/-- The literal of a string. -/
def quoted (text : String) : String :=
  String.ofList (['"'] ++ text.toList.flatMap encodeChar ++ ['"'])

end Literal

namespace Reader

/-- What an escape gives: a character, and the document behind it, which got no longer. -/
abbrev Escaped (before : List Char) :=
  { read : Char × Cursor // read.2.rest.length ≤ before.length }

/-- Four hexadecimal digits; without them the fault lies behind the next four bytes. -/
def hexUnit (cursor : Cursor) :
    Except Problem { read : Nat × Cursor // read.2.rest.length ≤ cursor.rest.length } :=
  match same : cursor.rest with
  | first :: second :: third :: fourth :: rest =>
    match Text.hexValue? [first, second, third, fourth] with
    | some unit =>
      .ok ⟨(unit, { rest, index := cursor.index + 4 }), by simp only [List.length_cons]; omega⟩
    | none => .error (missing cursor)
  | _ => .error (missing cursor)
where
  missing (cursor : Cursor) : Problem :=
    if cursor.remaining < 4 then .placed .endOfString (cursor.index + cursor.remaining)
    else .placed .invalidEscape (cursor.index + 4)

/-- The second half of a character that is escaped as two surrogates. -/
def trailingUnit (leading : Nat) (cursor : Cursor) : Except Problem (Escaped cursor.rest) :=
  match same : cursor.rest with
  | '\\' :: 'u' :: rest => do
    let ⟨(unit, next), shorter⟩ ← hexUnit { rest, index := cursor.index + 2 }
    if Literal.isTrailing unit then
      .ok ⟨(Literal.ofSurrogates leading unit, next), by
        simp only [List.length_cons] at shorter ⊢; omega⟩
    else .error (.placed .loneSurrogate next.index)
  | '\\' :: [] => .error (.placed .endOfString (cursor.index + 1))
  | '\\' :: _ => .error (.placed .unfinishedHexEscape (cursor.index + 2))
  | [] => .error (.placed .endOfString cursor.index)
  | _ => .error (.placed .unfinishedHexEscape (cursor.index + 1))

/-- The character of an escape whose backslash has been read. -/
def escape (cursor : Cursor) : Except Problem (Escaped cursor.rest) :=
  match same : cursor.rest with
  | [] => .error (.placed .endOfString cursor.index)
  | 'u' :: rest => do
    let ⟨(unit, next), shorter⟩ ← hexUnit { rest, index := cursor.index + 1 }
    if Literal.isTrailing unit then .error (.placed .loneSurrogate next.index)
    else if Literal.isLeading unit then
      let ⟨read, shortest⟩ ← trailingUnit unit next
      .ok ⟨read, by simp only [List.length_cons] at shorter ⊢; omega⟩
    else .ok ⟨(Char.ofNat unit, next), by simp only [List.length_cons] at shorter ⊢; omega⟩
  | letter :: rest =>
    match Literal.escaped? letter with
    | some char => .ok ⟨(char, { rest, index := cursor.index + 1 }), by simp⟩
    | none => .error (.placed .invalidEscape (cursor.index + 1))

/-- The rest of a string behind its opening quote; `read` holds the characters before, backwards. -/
def stringRest (read : List Char) (cursor : Cursor) : Except Problem (String × Cursor) :=
  match same : cursor.rest with
  | [] => .error (.placed .endOfString cursor.index)
  | '"' :: rest => .ok (String.ofList read.reverse, { rest, index := cursor.index + 1 })
  | '\\' :: rest =>
    match escape { rest, index := cursor.index + 1 } with
    | .error problem => .error problem
    | .ok ⟨(char, next), shorter⟩ =>
      have : next.rest.length < cursor.rest.length := by
        simp only [same, List.length_cons] at shorter ⊢; omega
      stringRest (char :: read) next
  | char :: rest =>
    if char.toNat < 0x20 then .error (.placed .controlCharacter (cursor.index + 1))
    else
      have : rest.length < cursor.rest.length := by simp [same]
      stringRest (char :: read) { rest, index := cursor.index + char.utf8Size }
termination_by cursor.rest.length

/-- A string whose opening quote has been read. -/
def stringBody : Reader String :=
  stringRest []

/-- Passes over the rest of a string behind its opening quote. -/
def skipStringRest (cursor : Cursor) : Except Problem Cursor :=
  match same : cursor.rest with
  | [] => .error (.placed .endOfString cursor.index)
  | '"' :: rest => .ok { rest, index := cursor.index + 1 }
  | '\\' :: [] => .error (.placed .endOfString (cursor.index + 1))
  | '\\' :: 'u' :: rest =>
    match hexUnit { rest, index := cursor.index + 2 } with
    | .error problem => .error problem
    | .ok ⟨(_, next), shorter⟩ =>
      have : next.rest.length < cursor.rest.length := by
        simp only [same, List.length_cons] at shorter ⊢; omega
      skipStringRest next
  | '\\' :: letter :: rest =>
    if (Literal.escaped? letter).isSome then
      have : rest.length < cursor.rest.length := by
        rw [same]; simp only [List.length_cons]; omega
      skipStringRest { rest, index := cursor.index + 2 }
    else .error (.placed .invalidEscape (cursor.index + 2))
  | char :: rest =>
    if char.toNat < 0x20 then .error (.placed .controlCharacter cursor.index)
    else
      have : rest.length < cursor.rest.length := by simp [same]
      skipStringRest { rest, index := cursor.index + char.utf8Size }
termination_by cursor.rest.length

/-- Passes over a string whose opening quote has been read. -/
def skipString : Reader Unit := fun cursor =>
  (skipStringRest cursor).map fun next => ((), next)

end Reader

end ElementTypings.Json
