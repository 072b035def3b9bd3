import ElementTypings.Decimal.Shortest
import ElementTypings.Text.Offset
import ElementTypings.Text.Quoted

/-!
# What can be wrong with a JSON document

A document is refused for its form or for its content: a value of the wrong type, a list of the
wrong length, a field that is missing or repeated, a word that is not one of those expected. Each
cause has a message, to which the place is added.
-/

namespace ElementTypings.Json

/-- A value that was found where another was expected. -/
inductive Found where
  | null
  | boolean (value : Bool)
  | integer (value : Int)
  | float (value : Float)
  | string (value : String)
  | sequence
  | map

namespace Found

/-- A double as the message shows it: the shortest decimal, a tie going to the even digit, with a
point up to sixteen digits before it and four zeros after it, and with an exponent beyond. -/
def floatText (value : Float) : String :=
  let decimal := Decimal.ofFloat .toEven value
  Decimal.sign decimal.negative ++
    match decimal.magnitude with
    | none => "0.0"
    | some number =>
      let whole := ((Nat.toDigits 10 number.digits).length : Int) + number.exponent
      if -5 < whole ∧ whole ≤ 16 then Decimal.positional number else Decimal.scientific number

/-- The value as a message names it. -/
def text : Found → String
  | null => "null"
  | boolean value => "boolean `" ++ (if value then "true" else "false") ++ "`"
  | integer value => "integer `" ++ toString value ++ "`"
  | float value => "floating point `" ++ floatText value ++ "`"
  | string value => "string " ++ Text.quoted value
  | sequence => "sequence"
  | map => "map"

end Found

/-- A cause for which a document is refused. -/
inductive Fault where
  | endOfList
  | endOfObject
  | endOfString
  | endOfValue
  | expectedColon
  | expectedListCommaOrEnd
  | expectedObjectCommaOrEnd
  | expectedWord
  | expectedValue
  | invalidEscape
  | invalidNumber
  | numberOutOfRange
  | controlCharacter
  | keyMustBeString
  | loneSurrogate
  | unfinishedHexEscape
  | trailingComma
  | trailingCharacters
  | invalidType (found : Found) (expected : String)
  | invalidLength (length : Nat) (expected : String)
  | unknownVariant (found : String) (known : List String)
  | missingField (name : String)
  | duplicateField (name : String)

namespace Fault

/-- The words between backticks and commas. -/
def listing (words : List String) : String :=
  ", ".intercalate (words.map fun word => "`" ++ word ++ "`")

/-- The message that reports the fault, without the place. -/
def message : Fault → String
  | endOfList => "EOF while parsing a list"
  | endOfObject => "EOF while parsing an object"
  | endOfString => "EOF while parsing a string"
  | endOfValue => "EOF while parsing a value"
  | expectedColon => "expected `:`"
  | expectedListCommaOrEnd => "expected `,` or `]`"
  | expectedObjectCommaOrEnd => "expected `,` or `\x7d`"
  | expectedWord => "expected ident"
  | expectedValue => "expected value"
  | invalidEscape => "invalid escape"
  | invalidNumber => "invalid number"
  | numberOutOfRange => "number out of range"
  | controlCharacter => "control character (\\u0000-\\u001F) found while parsing a string"
  | keyMustBeString => "key must be a string"
  | loneSurrogate => "lone leading surrogate in hex escape"
  | unfinishedHexEscape => "unexpected end of hex escape"
  | trailingComma => "trailing comma"
  | trailingCharacters => "trailing characters"
  | invalidType found expected => "invalid type: " ++ found.text ++ ", expected " ++ expected
  | invalidLength length expected =>
    "invalid length " ++ toString length ++ ", expected " ++ expected
  | unknownVariant found known =>
    "unknown variant `" ++ found ++ "`, expected one of " ++ listing known
  | missingField name => "missing field `" ++ name ++ "`"
  | duplicateField name => "duplicate field `" ++ name ++ "`"

end Fault

/-- A fault and the place where it was noticed. -/
structure Failure where
  fault : Fault
  position : Text.Position

namespace Failure

/-- The message that reports the failure. -/
def message (failure : Failure) : String :=
  failure.fault.message ++ " at line " ++ toString failure.position.line ++ " column " ++
    toString failure.position.column

end Failure

end ElementTypings.Json
