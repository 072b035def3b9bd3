import ElementTypings.Text.Classes
import ElementTypings.Toml.Value

/-!
# Scalars without quotes

Booleans, numbers, dates and times. Digits may be grouped by single underscores between them; a
decimal number has no leading zero, and only a decimal number has a sign.
-/

namespace ElementTypings.Toml.Scalar

open Text (digit? ofDigits)

/-- The digits of a group, the underscores between them dropped. -/
def digits? (base : Nat) : List Char → Option (List Nat)
  | [] => none
  | [last] => (digit? base last).map ([·])
  | first :: '_' :: rest => do
    let value ← digit? base first
    return value :: (← digits? base rest)
  | first :: rest => do
    let value ← digit? base first
    return value :: (← digits? base rest)

/-- The digits of a decimal number without a leading zero. -/
def decimal? (text : List Char) : Option (List Nat) :=
  match digits? 10 text with
  | some (0 :: _ :: _) => none
  | digits => digits

/-- A text without its sign, and whether the sign is a minus. -/
def unsigned : List Char → Bool × List Char
  | '-' :: rest => (true, rest)
  | '+' :: rest => (false, rest)
  | text => (false, text)

/-- An integer. -/
def integer? (text : List Char) : Option Int :=
  match text with
  | '0' :: 'x' :: rest => (digits? 16 rest).map fun digits => (ofDigits 16 digits : Int)
  | '0' :: 'o' :: rest => (digits? 8 rest).map fun digits => (ofDigits 8 digits : Int)
  | '0' :: 'b' :: rest => (digits? 2 rest).map fun digits => (ofDigits 2 digits : Int)
  | text =>
    let (negative, text) := unsigned text
    (decimal? text).map fun digits =>
      let value : Int := ofDigits 10 digits
      if negative then -value else value

/-- The exponent of a float, or zero where there is none. -/
def exponent? : List Char → Option Int
  | [] => some 0
  | _ :: text =>
    let (negative, text) := unsigned text
    (digits? 10 text).map fun digits =>
      let value : Int := ofDigits 10 digits
      if negative then -value else value

/-- A double from digits and an exponent. -/
def double (negative : Bool) (digits : List Nat) (exponent : Int) : Float :=
  let magnitude := Float.ofScientific (ofDigits 10 digits) (exponent < 0) exponent.natAbs
  if negative then -magnitude else magnitude

/-- A float. -/
def float? (text : List Char) : Option Float := do
  let (negative, text) := unsigned text
  if text = "inf".toList then return if negative then -(1.0 / 0.0) else 1.0 / 0.0
  if text = "nan".toList then return 0.0 / 0.0
  let isMark (char : Char) := char == 'e' || char == 'E'
  let mantissa := text.takeWhile fun char => !isMark char
  let exponent ← exponent? (text.dropWhile fun char => !isMark char)
  let whole ← decimal? (mantissa.takeWhile (· ≠ '.'))
  match mantissa.dropWhile (· ≠ '.') with
  | [] => if text.any isMark then return double negative whole exponent else none
  | _ :: part =>
    let fraction ← digits? 10 part
    return double negative (whole ++ fraction) (exponent - fraction.length)

/-- A number of exactly so many digits. -/
def fixed? (width : Nat) (text : List Char) : Option Nat :=
  if text.length = width ∧ text.all Char.isDigit then some (ofDigits 10 (text.map fun char =>
    char.toNat - '0'.toNat))
  else none

/-- The number of days in a month. -/
def daysIn (year month : Nat) : Nat :=
  if month = 2 then
    if year % 4 = 0 ∧ (year % 100 ≠ 0 ∨ year % 400 = 0) then 29 else 28
  else if month ∈ [4, 6, 9, 11] then 30
  else 31

/-- Whether the text is a date. -/
def isDate (text : List Char) : Bool :=
  match fixed? 4 (text.take 4), (text.drop 4).take 1, fixed? 2 ((text.drop 5).take 2),
      (text.drop 7).take 1, fixed? 2 (text.drop 8) with
  | some year, ['-'], some month, ['-'], some day =>
    1 ≤ month && month ≤ 12 && 1 ≤ day && day ≤ daysIn year month
  | _, _, _, _, _ => false

/-- Whether the text is an hour and a minute, from which a number of hours is not excluded. -/
def isClock (text : List Char) : Bool :=
  match fixed? 2 (text.take 2), (text.drop 2).take 1, fixed? 2 (text.drop 3) with
  | some hour, [':'], some minute => hour ≤ 23 && minute ≤ 59
  | _, _, _ => false

/-- Whether the text is a time of day; seconds may be left out and may have a fraction. -/
def isTime (text : List Char) : Bool :=
  isClock (text.take 5) &&
    match text.drop 5 with
    | [] => true
    | ':' :: rest =>
      ((fixed? 2 (rest.take 2)).any (· ≤ 60)) &&
        match rest.drop 2 with
        | [] => true
        | '.' :: fraction => fraction ≠ [] && fraction.all Char.isDigit
        | _ => false
    | _ => false

/-- Whether the text is a time of day with or without a distance from the meridian. -/
def isZonedTime (text : List Char) : Bool :=
  match text.reverse with
  | 'Z' :: time | 'z' :: time => isTime time.reverse
  | _ =>
    let shift := text.drop (text.length - 6)
    isTime text ||
      ((shift.head? == some '+' || shift.head? == some '-') && isClock (shift.drop 1) &&
        isTime (text.take (text.length - 6)))

/-- Whether the text is a date, a time, or a date and a time. -/
def isDateOrTime (text : List Char) : Bool :=
  isDate text || isTime text ||
    (isDate (text.take 10) && (text.drop 10).head?.any ['T', 't', ' '].contains &&
      isZonedTime (text.drop 11))

/-- The value that a text without quotes stands for. -/
def value? (text : List Char) : Option Value :=
  if text = "true".toList then some (.boolean true)
  else if text = "false".toList then some (.boolean false)
  else
    match integer? text with
    | some value => some (.integer value)
    | none =>
      match float? text with
      | some value => some (.float value)
      | none => if isDateOrTime text then some .date else none

/-- Whether the character may belong to a scalar without quotes. -/
def mayHold (char : Char) : Bool :=
  char.isAlphanum || ['_', '-', '+', '.', ':'].contains char

/-- The length of the scalar without quotes at the start of a text. A blank between a date and a
time belongs to it. -/
def length (text : List Char) : Nat :=
  let first := text.takeWhile mayHold
  match text.drop first.length with
  | ' ' :: next :: rest =>
    if isDate first && next.isDigit then
      first.length + 1 + ((next :: rest).takeWhile mayHold).length
    else first.length
  | _ => first.length

end ElementTypings.Toml.Scalar
