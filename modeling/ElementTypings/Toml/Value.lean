/-!
# Values of a TOML document

A document is a table. Every key and every value carries the range of bytes it was read from, so
that a value that does not fit can be pointed at. A table also remembers how it came about, since
that decides whether later lines may add to it.
-/

namespace ElementTypings.Toml

/-- A range of bytes. -/
structure Span where
  start : Nat
  stop : Nat
deriving DecidableEq, Repr

/-- Something that was read, with the range it was read from. -/
structure Located (Item : Type) where
  span : Span
  item : Item

/-- How a table came about. -/
inductive TableKind where
  /-- By a header of its own, or as the document itself. -/
  | explicit
  /-- As a step of the header of another table. -/
  | implied
  /-- As a step of a dotted key. -/
  | dotted
  /-- Between braces, as a value. -/
  | braced
deriving DecidableEq, Repr

/-- A value. -/
inductive Value where
  | string (text : String)
  | integer (value : Int)
  | float (value : Float)
  | boolean (value : Bool)
  /-- A date, a time, or both; no option is one, so its parts are not kept. -/
  | date
  | array (items : List (Located Value))
  | table (kind : TableKind) (entries : List (Located String × Located Value))
  /-- The tables of a repeated header. -/
  | tables (items : List (Located Value))

/-- The entries of a table, in the order in which they were read. -/
abbrev Table := List (Located String × Located Value)

namespace Table

/-- The value of a key. -/
def find? (table : Table) (key : String) : Option (Located Value) :=
  (List.find? (fun entry => entry.1.item == key) table).map Prod.snd

/-- The table in which a key that it has got another value. -/
def replace (table : Table) (key : String) (value : Located Value) : Table :=
  List.map (fun entry => if entry.1.item = key then (entry.1, value) else entry) table

/-- The table with another entry. -/
def add (table : Table) (key : Located String) (value : Located Value) : Table :=
  table ++ [(key, value)]

end Table

/-- What can be wrong with the form of a document. -/
inductive Fault where
  | invalidKey
  | unclosedHeader
  | missingEquals
  | missingValue
  | unquotedText
  | unclosedString
  | invalidEscape
  | controlCharacter
  | unclosedArray
  | unclosedTable
  | trailingText
  | duplicateKey
  | extendedValue
deriving DecidableEq, Repr

namespace Fault

/-- The message that reports the fault. -/
def message : Fault → String
  | invalidKey => "invalid unquoted key, expected letters, numbers, `-`, `_`"
  | unclosedHeader => "unclosed table, expected `]`"
  | missingEquals => "key with no value, expected `=`"
  | missingValue => "missing value"
  | unquotedText => "string values must be quoted, expected literal string"
  | unclosedString => "invalid basic string, expected `\"`"
  | invalidEscape =>
    "invalid escape sequence, expected `b`, `e`, `f`, `n`, `r`, `\\`, `\"`, `x`, `u`, `U`"
  | controlCharacter => "invalid control character"
  | unclosedArray => "unclosed array, expected `]`"
  | unclosedTable => "unclosed inline table, expected `\x7d`"
  | trailingText => "unexpected key or value, expected newline, `#`"
  | duplicateKey => "duplicate key"
  | extendedValue => "cannot extend value with a dotted key"

end Fault

/-- A fault and the range of bytes that shows it. -/
structure Failure where
  fault : Fault
  span : Span
deriving DecidableEq, Repr

end ElementTypings.Toml
