/-!
# The shortest decimal of a binary number

A binary floating-point number stands for all reals that round to it. Among the decimals in that
interval one with the fewest digits is written, and of several the nearest; where two are equally
near, the writer's rule for ties decides. The search goes through the grids of multiples of a power
of ten, from the coarsest on, and tests the two neighbours of the number on each grid; if a grid has
a point in the interval, one of those two lies in it.
-/

namespace ElementTypings.Decimal

/-- A positive decimal: some digits, read as a number, times a power of ten. -/
structure Scaled where
  digits : Nat
  exponent : Int
deriving DecidableEq, Repr

/-- A positive binary number: a mantissa times a power of two, and whether the gap below it is half
as wide as the one above. -/
structure Binary where
  mantissa : Nat
  exponent : Int
  narrowBelow : Bool
deriving DecidableEq, Repr

namespace Binary

/-- The number with the bit pattern of a double, its sign left aside; nothing for zero, for an
infinity and for what is not a number. -/
def ofBits? (bits : UInt64) : Option Binary :=
  let fraction : Nat := bits.toNat % Nat.pow 2 52
  let exponent : Nat := bits.toNat / Nat.pow 2 52 % Nat.pow 2 11
  if exponent = 2047 then none
  else if exponent = 0 then
    if fraction = 0 then none
    else some { mantissa := fraction, exponent := -1074, narrowBelow := false }
  else
    some
      { mantissa := Nat.pow 2 52 + fraction
        exponent := (exponent : Int) - 1075
        narrowBelow := fraction = 0 && exponent > 1 }

end Binary

/-- The value `count · 2 ^ binary / 10 ^ decimal` as a fraction. -/
def fraction (count : Nat) (binary decimal : Int) : Nat × Nat :=
  (count * Nat.pow 2 binary.toNat * Nat.pow 10 (-decimal).toNat,
    Nat.pow 2 (-binary).toNat * Nat.pow 10 decimal.toNat)

/-- Which of two neighbours stands for a number half way between them. -/
inductive Tie where
  /-- The one whose last digit is even. -/
  | toEven
  /-- The greater one. -/
  | upwards
deriving DecidableEq, Repr

/-- Whether a tie between a point of a grid and the next one goes to the lower of them. -/
def Tie.favoursLower : Tie → (below : Nat) → Bool
  | toEven, below => below % 2 == 0
  | upwards, _ => false

/-- Whether a fraction is at most a whole number. -/
def atMost (value : Nat × Nat) (bound : Nat) : Bool :=
  value.1 ≤ bound * value.2

/-- Whether a fraction is at least a whole number. -/
def atLeast (value : Nat × Nat) (bound : Nat) : Bool :=
  bound * value.2 ≤ value.1

/-- The point of the grid `10 ^ exponent` that stands for the number: of its two neighbours the
nearest that rounds to it. The ends of the interval belong to it if the mantissa is even. -/
def onGrid? (tie : Tie) (number : Binary) (exponent : Int) : Option Scaled :=
  let quarter := number.exponent - 2
  let low := fraction (4 * number.mantissa - if number.narrowBelow then 1 else 2) quarter exponent
  let high := fraction (4 * number.mantissa + 2) quarter exponent
  let value := fraction (4 * number.mantissa) quarter exponent
  let closed := number.mantissa % 2 = 0
  let rounds (point : Nat) : Bool :=
    atMost low point && atLeast high point &&
      (closed || (!atLeast low point && !atMost high point))
  let below := value.1 / value.2
  let excess := 2 * (value.1 - below * value.2)
  let order :=
    if excess < value.2 || (excess == value.2 && tie.favoursLower below) then [below, below + 1]
    else [below + 1, below]
  (order.find? rounds).map fun digits => { digits, exponent }

/-- The first grid with a point for the number, from the given exponent downwards. -/
def onFirstGrid (tie : Tie) (number : Binary) : (grids : Nat) → (exponent : Int) → Scaled
  | 0, exponent => { digits := 0, exponent }
  | grids + 1, exponent =>
    (onGrid? tie number exponent).getD (onFirstGrid tie number grids (exponent - 1))

/-- The shortest decimal that rounds to the number. -/
def shortest (tie : Tie) (number : Binary) : Scaled :=
  onFirstGrid tie number 660 309

/-- The digits of a decimal, with its sign. -/
structure Signed where
  negative : Bool
  /-- Nothing for zero. -/
  magnitude : Option Scaled

/-- The shortest decimal of a finite double. -/
def ofFloat (tie : Tie) (value : Float) : Signed :=
  { negative := Nat.pow 2 63 ≤ value.toBits.toNat
    magnitude := (Binary.ofBits? value.toBits).map (shortest tie) }

/-- The sign of a number as it is written. -/
def sign (negative : Bool) : String :=
  if negative then "-" else ""

/-- So many zeros. -/
def zeros (count : Nat) : String :=
  String.ofList (List.replicate count '0')

/-- Digits times a power of ten, written with a point and without an exponent. -/
def positional (number : Scaled) : String :=
  let digits := Nat.toDigits 10 number.digits
  let whole := (digits.length : Int) + number.exponent
  if 0 ≤ number.exponent then String.ofList digits ++ zeros number.exponent.toNat ++ ".0"
  else if 0 < whole then
    String.ofList (digits.take whole.toNat) ++ "." ++ String.ofList (digits.drop whole.toNat)
  else "0." ++ zeros (-whole).toNat ++ String.ofList digits

/-- Digits times a power of ten, written with one digit before the point and an exponent. -/
def scientific (number : Scaled) : String :=
  let exponent := toString ((Nat.toDigits 10 number.digits).length + number.exponent - 1)
  match Nat.toDigits 10 number.digits with
  | [] => ""
  | [digit] => String.singleton digit ++ "e" ++ exponent
  | digit :: later => String.singleton digit ++ "." ++ String.ofList later ++ "e" ++ exponent

end ElementTypings.Decimal
