import ElementTypings.Json.Reader

/-!
# Numbers of JSON

No field of a registry holds a number, so a number is read only to name it in a message. A number
without a fraction and an exponent is an integer while it fits 64 bits; any other is a double. The
double is found by one multiplication or division of the digits by a power of ten, which need not
give the nearest one.
-/

namespace ElementTypings.Json

namespace Number

/-- The largest integer that digits are collected into. -/
def limit : Nat := UInt64.size - 1

/-- The number to which digits extend a number, while it stays within the limit, and how many
digits were left out. -/
def collect (value : Nat) : List Nat → Nat × Nat
  | [] => (value, 0)
  | digit :: later =>
    if limit < value * 10 + digit then (value, later.length + 1)
    else collect (value * 10 + digit) later

/-- A power of ten as a double. -/
def power (exponent : Nat) : Float :=
  Float.ofScientific 1 false exponent

/-- The largest power of ten that is a finite double. -/
def largestPower : Nat := 308

/-- A double divided by a power of ten; a power that is too large is divided out in parts, of which
a few make any double zero. -/
def divided (value : Float) : (parts exponent : Nat) → Float
  | 0, _ => value
  | parts + 1, exponent =>
    if exponent ≤ largestPower then value / power exponent
    else if value == 0.0 then value
    else divided (value / power largestPower) parts (exponent - largestPower)

/-- Digits times a power of ten as a double, or nothing beyond the largest one. -/
def ofParts? (positive : Bool) (digits : Nat) (exponent : Int) : Option Float :=
  let value := Float.ofScientific digits false 0
  let signed (value : Float) := if positive then value else -value
  if 0 ≤ exponent then
    if exponent.toNat ≤ largestPower then
      let scaled := value * power exponent.toNat
      if scaled.isInf then none else some (signed scaled)
    else if value == 0.0 then some (signed value)
    else none
  else some (signed (divided value 4 (-exponent).toNat))

/-- The largest exponent that is told from larger ones. -/
def exponentLimit : Nat := Nat.pow 2 31 - 1

end Number

namespace Reader

open Number

/-- The double of the digits and the exponent that have been read. -/
def double (positive : Bool) (digits : Nat) (exponent : Int) : Reader Found := do
  match ofParts? positive digits exponent with
  | some value => return .float value
  | none => fail .numberOutOfRange

/-- The exponent of a number, from its mark on. -/
def exponentPart (positive : Bool) (digits : Nat) (before : Int) : Reader Found := do
  advance
  let negative ← do
    match ← peek with
    | some '+' => advance; pure false
    | some '-' => advance; pure true
    | _ => pure false
  match ← peek with
  | none => fail .endOfValue
  | some first =>
    if !first.isDigit then blame .invalidNumber
    else
      let cursor ← get
      let found ← Reader.digits
      let exponent := found.foldl (fun value digit => value * 10 + digit) 0
      if exponentLimit < exponent then
        if digits ≠ 0 && !negative then
          let fitting := (List.range found.length).countP fun count =>
            (found.take (count + 1)).foldl (fun value digit => value * 10 + digit) 0
              ≤ exponentLimit
          set { cursor with index := cursor.index + fitting + 1 }
          fail .numberOutOfRange
        else return .float (if positive then 0.0 else -0.0)
      else
        double positive digits (if negative then before - exponent else before + exponent)

/-- The fraction of a number, from its point on. -/
def fractionPart (positive : Bool) (digits : Nat) (before : Int) : Reader Found := do
  advance
  let found ← Reader.digits
  if found.isEmpty then
    match ← peek with
    | none => blame .endOfValue
    | some _ => blame .invalidNumber
  else
    let (digits, dropped) := collect digits found
    let exponent := before - (found.length - dropped)
    match ← peek with
    | some 'e' | some 'E' => exponentPart positive digits exponent
    | _ => double positive digits exponent

/-- What follows the whole part of a number, of which `dropped` digits were left out. -/
def afterWhole (positive : Bool) (digits dropped : Nat) : Reader Found := do
  match ← peek with
  | some '.' => fractionPart positive digits dropped
  | some 'e' | some 'E' => exponentPart positive digits dropped
  | _ =>
    if dropped ≠ 0 then double positive digits dropped
    else if positive then return .integer digits
    else if digits = 0 ∨ Nat.pow 2 63 < digits then
      double false digits 0
    else return .integer (-digits)

/-- A number whose sign has been read. -/
def number (positive : Bool) : Reader Found := do
  match ← peek with
  | none => fail .endOfValue
  | some '0' =>
    advance
    match ← peek with
    | some next => if next.isDigit then blame .invalidNumber else afterWhole positive 0 0
    | none => afterWhole positive 0 0
  | some first =>
    if first.isDigit then
      let (digits, dropped) := collect 0 (← Reader.digits)
      afterWhole positive digits dropped
    else blame .invalidNumber

/-- Passes over the exponent of a number, from its mark on. -/
def skipExponent : Reader Unit := do
  advance
  match ← peek with
  | some '+' | some '-' => advance
  | _ => pure ()
  match ← peek with
  | none => fail .invalidNumber
  | some first =>
    if first.isDigit then discard Reader.digits else blame .invalidNumber

/-- Passes over the fraction of a number, from its point on. -/
def skipFraction : Reader Unit := do
  advance
  let found ← Reader.digits
  if found.isEmpty then blame .invalidNumber
  else
    match ← peek with
    | some 'e' | some 'E' => skipExponent
    | _ => pure ()

/-- Passes over a number whose sign has been read. -/
def skipNumber : Reader Unit := do
  match ← peek with
  | none => fail .invalidNumber
  | some '0' =>
    advance
    if (← peek).any Char.isDigit then blame .invalidNumber
  | some first =>
    if first.isDigit then discard Reader.digits else blame .invalidNumber
  match ← peek with
  | some '.' => skipFraction
  | some 'e' | some 'E' => skipExponent
  | _ => pure ()

end Reader

end ElementTypings.Json
