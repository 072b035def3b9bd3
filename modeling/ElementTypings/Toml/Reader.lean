import ElementTypings.Text.Offset
import ElementTypings.Toml.Scalar
import ElementTypings.Toml.Structure

/-!
# Reading a TOML document

The grammar of a document, line by line. The number of characters that remain bounds the rounds of
every loop, since each round takes one.
-/

namespace ElementTypings.Toml

open Text (Cursor)

/-- Takes a part of a document from its front. -/
abbrev Reader := StateT Cursor (Except Failure)

namespace Reader

/-- Refuses the document at the next character. -/
def fail {Item : Type} (fault : Fault) : Reader Item := fun cursor =>
  .error { fault, span := { start := cursor.index, stop := cursor.advance.index } }

/-- The next character. -/
def peek : Reader (Option Char) := do
  return (← get).rest.head?

/-- Drops the next character. -/
def advance : Reader Unit :=
  modify Cursor.advance

/-- Whether the document goes on with a text; the text is dropped then. -/
def skipText (text : String) : Reader Bool := do
  let cursor ← get
  if text.toList.isPrefixOf cursor.rest then
    set { cursor with
      rest := cursor.rest.drop text.length
      index := cursor.index + text.utf8ByteSize : Cursor }
    return true
  else return false

/-- Drops blanks and tabs. -/
def skipBlanks : Reader Unit :=
  modify (Cursor.dropWhile fun char => char == ' ' || char == '\t')

/-- A bound for the rounds of a loop. -/
def bound : Reader Nat := do
  return (← get).rest.length + 1

/-- A part of the document with the range it was read from. -/
def located {Item : Type} (part : Reader Item) : Reader (Located Item) := do
  let start := (← get).index
  let item ← part
  return { span := { start, stop := (← get).index }, item }

/-- Whether the character may not stand in a string or a comment. -/
def isControl (char : Char) : Bool :=
  (char.toNat < 0x20 && char != '\t') || char.toNat == 0x7F

/-- Drops a comment, if one follows. -/
def skipComment : Reader Unit := do
  if (← peek) = some '#' then
    modify (Cursor.dropWhile fun char => !isControl char)

/-- Drops a line end, if one follows. -/
def skipLineEnd : Reader Bool := do
  if ← skipText "\n" then return true else skipText "\x0d\n"

/-- Drops blanks, comments and line ends. -/
def skipLines : (rounds : Nat) → Reader Unit
  | 0 => pure ()
  | rounds + 1 => do
    skipBlanks
    skipComment
    if ← skipLineEnd then skipLines rounds

/-- The character of so many hexadecimal digits. -/
def hexEscape (width : Nat) : Reader Char := do
  let cursor ← get
  let digits := cursor.rest.take width
  match Text.hexValue? digits with
  | some value =>
    if digits.length = width ∧ value.isValidChar then
      set { cursor with
        rest := cursor.rest.drop width
        index := cursor.index + width : Cursor }
      return Char.ofNat value
    else fail .invalidEscape
  | none => fail .invalidEscape

/-- The character of an escape whose backslash was read. -/
def escape : Reader Char := do
  let letter ← peek
  advance
  match letter with
  | some 'b' => return '\x08'
  | some 't' => return '\t'
  | some 'n' => return '\n'
  | some 'f' => return '\x0c'
  | some 'r' => return '\x0d'
  | some 'e' => return '\x1b'
  | some '"' => return '"'
  | some '\\' => return '\\'
  | some 'x' => hexEscape 2
  | some 'u' => hexEscape 4
  | some 'U' => hexEscape 8
  | _ => fail .invalidEscape

/-- Whether only blanks stand before the end of the line. -/
def atLineEnd : Reader Bool := do
  match ((← get).dropWhile fun char => char == ' ' || char == '\t').rest with
  | '\n' :: _ => return true
  | '\x0d' :: '\n' :: _ => return true
  | _ => return false

/-- The rest of a string on one line, up to its closing quote; `read` is what came before,
backwards. -/
def lineString (quote : Char) : (rounds : Nat) → (read : List Char) → Reader String
  | 0, _ => fail .unclosedString
  | rounds + 1, read => do
    match ← peek with
    | none => fail .unclosedString
    | some char =>
      if char = quote then
        advance
        return String.ofList read.reverse
      else if char = '\\' && quote == '"' then
        advance
        lineString quote rounds ((← escape) :: read)
      else if char = '\n' then fail .unclosedString
      else if isControl char then fail .controlCharacter
      else
        advance
        lineString quote rounds (char :: read)

/-- The rest of a string over several lines, up to its closing quotes. Up to two quotes before them
belong to the string. -/
def blockString (quote : Char) : (rounds : Nat) → (read : List Char) → Reader String
  | 0, _ => fail .unclosedString
  | rounds + 1, read => do
    match ← peek with
    | none => fail .unclosedString
    | some char =>
      if char = quote then
        let cursor ← get
        let quotes := min 5 (cursor.rest.takeWhile (· == quote)).length
        set { cursor with
          rest := cursor.rest.drop quotes
          index := cursor.index + quotes : Cursor }
        if quotes < 3 then blockString quote rounds (List.replicate quotes quote ++ read)
        else return String.ofList (List.replicate (quotes - 3) quote ++ read).reverse
      else if char = '\\' && quote == '"' then
        advance
        if ← atLineEnd then
          modify (Cursor.dropWhile fun char => [' ', '\t', '\n', '\x0d'].contains char)
          blockString quote rounds read
        else blockString quote rounds ((← escape) :: read)
      else if ← skipText "\x0d\n" then blockString quote rounds ('\n' :: '\x0d' :: read)
      else if isControl char && char != '\n' then fail .controlCharacter
      else
        advance
        blockString quote rounds (char :: read)

/-- A string between quotes of one of the two kinds. -/
def string (quote : Char) : Reader String := do
  if ← skipText (String.ofList [quote, quote, quote]) then
    discard skipLineEnd
    blockString quote (← bound) []
  else
    advance
    lineString quote (← bound) []

/-- Whether the character may stand in a key without quotes. -/
def isBare (char : Char) : Bool :=
  char.isAlphanum || char == '-' || char == '_'

/-- One step of a key. -/
def simpleKey : Reader (Located String) := located do
  match ← peek with
  | some '"' =>
    advance
    lineString '"' (← bound) []
  | some '\'' =>
    advance
    lineString '\'' (← bound) []
  | _ =>
    let bare := (← get).rest.takeWhile isBare
    if bare.isEmpty then fail .invalidKey
    modify (Cursor.dropWhile isBare)
    return String.ofList bare

/-- A key of one or more steps with dots between them. -/
def key : (rounds : Nat) → Reader (List (Located String))
  | 0 => fail .invalidKey
  | rounds + 1 => do
    skipBlanks
    let first ← simpleKey
    skipBlanks
    if ← skipText "." then return first :: (← key rounds) else return [first]

/-- The outcome of a change to the tables, where the key is to blame for a fault. -/
def changed {Item : Type} (path : List (Located String)) : Change Item → Reader Item
  | .ok item => pure item
  | .error fault => fun cursor =>
    let here : Span := { start := cursor.index, stop := cursor.index }
    .error { fault, span := (path.getLast?.map Located.span).getD here }

/-- A scalar without quotes. -/
def scalar : Reader Value := do
  let cursor ← get
  let length := Scalar.length cursor.rest
  let text := cursor.rest.take length
  if text.isEmpty then fail .missingValue
  match Scalar.value? text with
  | none => fail .unquotedText
  | some value =>
    set { cursor with
      rest := cursor.rest.drop length
      index := cursor.index + Cursor.size text : Cursor }
    return value

mutual

/-- A value; `depth` bounds how deep values may be nested. -/
def value : (depth : Nat) → Reader (Located Value)
  | 0 => fail .missingValue
  | depth + 1 => located do
    match ← peek with
    | some '"' => return .string (← string '"')
    | some '\'' => return .string (← string '\'')
    | some '[' =>
      advance
      return .array (← items depth (← bound))
    | some '{' =>
      advance
      let (_, entries) ← bracedEntries depth (← bound) .braced []
      return .table .braced entries
    | _ => scalar

/-- The items of an array up to its end. -/
def items (depth : Nat) : (rounds : Nat) → Reader (List (Located Value))
  | 0 => fail .unclosedArray
  | rounds + 1 => do
    skipLines (← bound)
    if ← skipText "]" then return []
    let first ← value depth
    skipLines (← bound)
    if ← skipText "," then return first :: (← items depth rounds)
    else if ← skipText "]" then return [first]
    else fail .unclosedArray

/-- The entries of a table between braces up to its end, added to a table. -/
def bracedEntries (depth : Nat) :
    (rounds : Nat) → TableKind → Table → Reader (TableKind × Table)
  | 0, _, _ => fail .unclosedTable
  | rounds + 1, kind, table => do
    skipLines (← bound)
    if ← skipText "\x7d" then return (kind, table)
    let path ← key (← bound)
    if !(← skipText "=") then fail .missingEquals
    skipBlanks
    let content ← value depth
    let (kind, table) ← changed path (Table.assign path content kind table)
    skipLines (← bound)
    if ← skipText "," then bracedEntries depth rounds kind table
    else if ← skipText "\x7d" then return (kind, table)
    else fail .unclosedTable

end

/-- The end of a line, or of the document; the answer is whether another line follows. -/
def endLine : Reader Bool := do
  skipBlanks
  skipComment
  match ← peek with
  | none => return false
  | some char =>
    if ← skipLineEnd then return true
    else if isControl char then fail .controlCharacter
    else fail .trailingText

/-- The lines of a document. `header` is the way to the table that is open, and `table` holds what
the lines before have given. -/
def lines : (rounds : Nat) → (header : List (Located String)) → Table → Reader Table
  | 0, _, table => pure table
  | rounds + 1, header, table => do
    skipBlanks
    match ← peek with
    | none => return table
    | some '[' =>
      let start := (← get).index
      let repeated ← skipText "[["
      if !repeated then advance
      let path ← key (← bound)
      if !(← skipText (if repeated then "]]" else "]")) then fail .unclosedHeader
      let span : Span := { start, stop := (← get).index }
      let (_, table) ← changed path (Table.openAt repeated path span .explicit table)
      if ← endLine then lines rounds path table else return table
    | some char =>
      if char = '#' || char = '\n' || char = '\x0d' then
        if ← endLine then lines rounds header table else return table
      else
        let path ← key (← bound)
        if !(← skipText "=") then fail .missingEquals
        skipBlanks
        let content ← value (← bound)
        let (_, table) ← changed path
          (Table.descend .implied (Table.assign path content) header .explicit table)
        if ← endLine then lines rounds header table else return table

/-- A whole document; a byte order mark may stand before it. -/
def document : Reader Table := do
  discard (skipText "\uFEFF")
  lines (← bound) [] []

end Reader

/-- The table of a document. -/
def read (document : String) : Except Failure Table :=
  match Reader.document (Cursor.start document) with
  | .ok (table, _) => .ok table
  | .error failure => .error failure

end ElementTypings.Toml
