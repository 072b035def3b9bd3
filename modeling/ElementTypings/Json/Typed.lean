import ElementTypings.Json.Skip

/-!
# Reading values of known types

Readers for strings, optional values, lists, maps and records. A record is an object whose fields
may come in any order and among others that are passed over; it may be given as a list of its
fields in the order of their declaration as well.
-/

namespace ElementTypings.Json.Reader

variable {Value : Type}

/-- Refuses a value of another type than expected; its head is read to name it. -/
def refuseType (expected : String) : Reader Value := do
  let wrong (found : Found) : Reader Value := fail (.invalidType found expected)
  match ← peek with
  | some 'n' => advance; letters ['u', 'l', 'l']; wrong .null
  | some 't' => advance; letters ['r', 'u', 'e']; wrong (.boolean true)
  | some 'f' => advance; letters ['a', 'l', 's', 'e']; wrong (.boolean false)
  | some '-' => advance; wrong (← number false)
  | some '"' => advance; wrong (.string (← stringBody))
  | some '[' => wrong .sequence
  | some '{' => wrong .map
  | some char => if char.isDigit then wrong (← number true) else blame .expectedValue
  | none => blame .expectedValue

/-- A string; `expected` says in a message what it stands for. -/
def string (expected : String) : Reader String := do
  match ← peekToken with
  | none => blame .endOfValue
  | some '"' => advance; stringBody
  | some _ => refuseType expected

/-- A value, or nothing where `null` is written. -/
def optional (value : Reader Value) : Reader (Option Value) := do
  match ← peekToken with
  | some 'n' => advance; letters ['u', 'l', 'l']; return none
  | _ => return some (← value)

/-- The colon behind a key. -/
def colon : Reader Unit := do
  match ← peekToken with
  | some ':' => advance
  | some _ => blame .expectedColon
  | none => blame .endOfObject

/-- The next key of an object, or nothing at its end. -/
def nextKey (first : Bool) : Reader (Option String) := do
  match ← peekToken with
  | none => blame .endOfObject
  | some '}' => return none
  | some char =>
    if char = ',' && !first then
      advance
      match ← peekToken with
      | some '"' => advance; return some (← stringBody)
      | some '}' => blame .trailingComma
      | some _ => blame .keyMustBeString
      | none => blame .endOfValue
    else if !first then blame .expectedObjectCommaOrEnd
    else if char = '"' then
      advance
      return some (← stringBody)
    else blame .keyMustBeString

/-- Whether a list has another element; the comma before it is read. -/
def nextElement (first : Bool) : Reader Bool := do
  match ← peekToken with
  | none => blame .endOfList
  | some ']' => return false
  | some char =>
    if char = ',' && !first then
      advance
      match ← peekToken with
      | some ']' => blame .trailingComma
      | some _ => return true
      | none => blame .endOfValue
    else if first then return true
    else blame .expectedListCommaOrEnd

/-- The end of an object. -/
def endObject : Reader Unit := do
  match ← peekToken with
  | some '}' => advance
  | some ',' => blame .trailingComma
  | some _ => blame .trailingCharacters
  | none => blame .endOfObject

/-- The end of a list. -/
def endList : Reader Unit := do
  match ← peekToken with
  | some ']' => advance
  | some ',' =>
    advance
    match ← peekToken with
    | some ']' => blame .trailingComma
    | _ => blame .trailingCharacters
  | some _ => blame .trailingCharacters
  | none => blame .endOfList

/-- The content of a container and its end. A fault of the content as a whole is placed behind the
closing bracket. -/
def within (bracket : Bracket) (content : Reader Value) : Reader Value := fun cursor =>
  match content cursor with
  | .error (.content fault inside) => .error (.placed fault (behind bracket.closing inside))
  | .error problem => .error problem
  | .ok (value, next) =>
    match (match bracket with | .list => endList | .object => endObject) next with
    | .error problem => .error problem
    | .ok (_, next) => .ok (value, next)

/-- The elements of a list up to its end; `rounds` bounds their number. -/
def elements (value : Reader Value) : (rounds : Nat) → (first : Bool) → Reader (List Value)
  | 0, _ => fail .endOfList
  | rounds + 1, first => do
    if ← nextElement first then
      let head ← value
      return head :: (← elements value rounds false)
    else return []

/-- The entries of an object up to its end, added to a map; `rounds` bounds their number. -/
def entries (value : Reader Value) :
    (rounds : Nat) → (first : Bool) → OrderedMap Value → Reader (OrderedMap Value)
  | 0, _, _ => fail .endOfObject
  | rounds + 1, first, map => do
    match ← nextKey first with
    | none => return map
    | some key =>
      colon
      entries value rounds false (map.insert key (← value))

/-- A bound for the parts of a container: each takes a character. -/
def bound : Reader Nat := do
  return (← get).rest.length + 1

/-- A list of values. -/
def list (value : Reader Value) : Reader (List Value) := do
  match ← peekToken with
  | none => blame .endOfValue
  | some '[' =>
    advance
    within .list (elements value (← bound) true)
  | some _ => refuseType "a sequence"

/-- A map from names to values. -/
def map (value : Reader Value) : Reader (OrderedMap Value) := do
  match ← peekToken with
  | none => blame .endOfValue
  | some '{' =>
    advance
    within .object (entries value (← bound) true ∅)
  | some _ => refuseType "a map"

/-- A field of a record that is collected in a draft. -/
structure Field (Draft : Type) where
  name : String
  /-- Reads the field's value into the draft. -/
  read : Draft → Reader Draft
  /-- Whether the record cannot do without the field. -/
  required : Bool

/-- A type of records: what a message calls it, its fields in the order of their declaration, and
the record that a draft gives, or the name of the field that the draft lacks. -/
structure Record (Draft Value : Type) where
  name : String
  fields : List (Field Draft)
  start : Draft
  finish : Draft → Except String Value

namespace Record

variable {Draft : Type}

/-- The fields of an object up to its end; `seen` lists those that have been read, and `rounds`
bounds their number. -/
def keyed (record : Record Draft Value) :
    (rounds : Nat) → (first : Bool) → (seen : List String) → Draft → Reader Draft
  | 0, _, _, _ => fail .endOfObject
  | rounds + 1, first, seen, draft => do
    match ← nextKey first with
    | none => return draft
    | some key =>
      match record.fields.find? fun field => field.name == key with
      | none =>
        colon
        skipValue
        keyed record rounds false seen draft
      | some field =>
        if key ∈ seen then refuse (.duplicateField key)
        else
          colon
          keyed record rounds false (key :: seen) (← field.read draft)

/-- The fields of a record that is given as a list; `before` fields have been read. -/
def listed (record : Record Draft Value) (before : Nat) :
    List (Field Draft) → Draft → Reader Draft
  | [], draft => pure draft
  | field :: later, draft => do
    if ← nextElement (before == 0) then
      listed record (before + 1) later (← field.read draft)
    else if field.required then
      refuse (.invalidLength before
        ("struct " ++ record.name ++ " with " ++ toString record.fields.length ++ " elements"))
    else listed record (before + 1) later draft

/-- The record that the draft gives. -/
def finished (record : Record Draft Value) (draft : Draft) : Reader Value :=
  match record.finish draft with
  | .ok value => pure value
  | .error field => refuse (.missingField field)

/-- A record. -/
def read (record : Record Draft Value) : Reader Value := do
  match ← peekToken with
  | none => blame .endOfValue
  | some '{' =>
    advance
    within .object do record.finished (← record.keyed (← bound) true [] record.start)
  | some '[' =>
    advance
    within .list do record.finished (← record.listed 0 record.fields record.start)
  | some _ => refuseType ("struct " ++ record.name)

end Record

/-- One of several words, each of which stands for a value; it may be given as the only key of an
object whose value is `null` as well. -/
def word (known : List String) (ofWord? : String → Option Value) : Reader Value := do
  let identifier : Reader Value := do
    let found ← string "variant identifier"
    match ofWord? found with
    | some value => return value
    | none => fail (.unknownVariant found known)
  match ← peekToken with
  | some '"' => identifier
  | some '{' =>
    advance
    let value ← identifier
    colon
    match ← peekToken with
    | none => blame .endOfValue
    | some 'n' => advance; letters ['u', 'l', 'l']
    | some _ => refuseType "unit"
    match ← peekToken with
    | some '}' => advance
    | some _ => fail .expectedValue
    | none => fail .endOfObject
    return value
  | some _ => blame .expectedValue
  | none => blame .endOfValue

/-- Reads a whole document; only spaces may follow the value. -/
def document (value : Reader Value) : Reader Value := do
  let result ← value
  match ← peekToken with
  | some _ => blame .trailingCharacters
  | none => return result

end Reader

/-- The value of a document, or the first fault with its place. -/
def read {Value : Type} (value : Reader Value) (document : String) : Except Failure Value :=
  let place (fault : Fault) (index : Nat) : Failure :=
    { fault, position := Text.Position.ofIndex document.toUTF8.data.toList index }
  match Reader.document value (Text.Cursor.start document) with
  | .ok (result, _) => .ok result
  | .error (.placed fault index) => .error (place fault index)
  | .error (.content fault cursor) => .error (place fault cursor.index)

end ElementTypings.Json
