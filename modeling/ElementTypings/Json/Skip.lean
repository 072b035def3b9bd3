import ElementTypings.Json.Number
import ElementTypings.Json.StringLiteral

/-!
# Passing over a value

A field that is not known is passed over, however deep its value. The brackets that are open are
kept in a list, so the depth has no limit. Some faults are reported as others here than where the
value is wanted: a comma before a closing bracket is a missing value in a list, and a missing key in
an object.
-/

namespace ElementTypings.Json

/-- A bracket that is open. -/
inductive Bracket where
  | list
  | object
deriving DecidableEq, Repr

namespace Bracket

/-- The character that closes the bracket. -/
def closing : Bracket → Char
  | list => ']'
  | object => '}'

/-- The fault of a document that ends while the bracket is open. -/
def atEnd : Bracket → Fault
  | list => .endOfList
  | object => .endOfObject

/-- The fault of a value that neither a comma nor the closing bracket follows. -/
def unseparated : Bracket → Fault
  | list => .expectedListCommaOrEnd
  | object => .expectedObjectCommaOrEnd

end Bracket

namespace Reader

/-- Passes over the key of an object and the colon behind it. -/
def skipKey : Reader Unit := do
  match ← peekToken with
  | some '"' => advance
  | some _ => blame .keyMustBeString
  | none => blame .endOfObject
  skipString
  match ← peekToken with
  | some ':' => advance
  | some _ => blame .expectedColon
  | none => blame .endOfObject

/-- Passes over a value without parts, or opens one: the answer is the bracket that was opened. -/
def skipScalar : Reader (Option Bracket) := do
  match ← peekToken with
  | none => blame .endOfValue
  | some 'n' => advance; letters ['u', 'l', 'l']; return none
  | some 't' => advance; letters ['r', 'u', 'e']; return none
  | some 'f' => advance; letters ['a', 'l', 's', 'e']; return none
  | some '-' => advance; skipNumber; return none
  | some '"' => advance; skipString; return none
  | some '[' => advance; return some .list
  | some '{' => advance; return some .object
  | some char =>
    if char.isDigit then
      skipNumber
      return none
    else blame .expectedValue

/-- Closes brackets as long as closing brackets follow; `separated` says that a value has been
passed over, so that a comma may follow as well. The answer lists the brackets that are open where
the next value starts. -/
def closeBrackets (separated : Bool) : List Bracket → Reader (List Bracket)
  | [] => pure []
  | bracket :: outer => do
    match ← peekToken with
    | none => blame bracket.atEnd
    | some char =>
      if char = ',' && separated then
        advance
        return bracket :: outer
      else if char = bracket.closing then
        advance
        closeBrackets true outer
      else if separated then blame bracket.unseparated
      else return bracket :: outer

/-- Passes over values until no bracket is open; every round takes a character, so the characters
of the document bound the rounds. -/
def skipValues : (rounds : Nat) → List Bracket → Reader Unit
  | 0, _ => fail .endOfValue
  | rounds + 1, brackets => do
    let opened ← skipScalar
    match ← closeBrackets opened.isNone (opened.toList ++ brackets) with
    | [] => return ()
    | .object :: outer =>
      skipKey
      skipValues rounds (.object :: outer)
    | brackets => skipValues rounds brackets

/-- Passes over one value. -/
def skipValue : Reader Unit := do
  skipValues ((← get).rest.length + 1) []

end Reader

end ElementTypings.Json
