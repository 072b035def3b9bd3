import ElementTypings.Text.Classes

/-!
# Reading string literals

The string literals of a TypeScript module: between two quotes of one kind stand characters and
escapes, a line may only end behind a backslash, and the value is a list of UTF-16 code units. What
follows the closing quote is not part of the literal (`StringLiteral.read`).

A text between quotes is read as itself exactly if it has neither the quote nor a backslash nor the
end of a line (`StringLiteral.read_quoted_iff`). Where a quote occurs the literal ends too early,
and where a backslash occurs the value is too short, since no escape stands for as many code units
as it is long (`StringLiteral.length_le_of_read`).
-/

namespace ElementTypings.StringLiteral

/-- The UTF-16 code units of a code point. -/
def codeUnits (point : Nat) : List Nat :=
  if point < 0x10000 then [point]
  else [0xD800 + (point - 0x10000) / 0x400, 0xDC00 + (point - 0x10000) % 0x400]

/-- The UTF-16 code units of a text. -/
def value (text : List Char) : List Nat :=
  text.flatMap fun char => codeUnits char.toNat

/-- What was read of the character at hand. -/
inductive Mode where
  /-- Nothing: the next character starts. -/
  | start
  /-- A backslash. -/
  | escape
  /-- An escape for the null character, which no digit may follow. -/
  | zero
  /-- A backslash and a carriage return, to which a line feed would belong. -/
  | lineBreak
  /-- A backslash and the letter of a code point. -/
  | unicode
  /-- An escape up to some hexadecimal digits, of which at least one is missing. -/
  | digits (missing : Nat) (read : Nat)
  /-- An escape up to hexadecimal digits between braces. -/
  | braced (read : Option Nat)
deriving DecidableEq, Repr

namespace Mode

/-- Whether the literal may end here. -/
def mayEnd : Mode → Bool
  | start | zero | lineBreak => true
  | _ => false

/-- Takes the first character of a character. -/
def first (char : Char) : Option (List Nat × Mode) :=
  if char = '\\' then some ([], escape)
  else if char = '\n' ∨ char = '\r' then none
  else some (codeUnits char.toNat, start)

/-- Takes the character behind a backslash. -/
def escaped : Char → Option (List Nat × Mode)
  | 'b' => some ([8], start)
  | 't' => some ([9], start)
  | 'n' => some ([10], start)
  | 'v' => some ([11], start)
  | 'f' => some ([12], start)
  | 'r' => some ([13], start)
  | '0' => some ([0], zero)
  | 'x' => some ([], digits 1 0)
  | 'u' => some ([], unicode)
  | '\r' => some ([], lineBreak)
  | '\n' | '\u2028' | '\u2029' => some ([], start)
  | char => if char.isDigit then none else some (codeUnits char.toNat, start)

/-- Takes a hexadecimal digit, which is the last one if no further digit is missing. -/
def digit (missing read : Nat) (char : Char) : Option (List Nat × Mode) :=
  match Text.digit? 16 char, missing with
  | none, _ => none
  | some digit, 0 => some ([read * 16 + digit], start)
  | some digit, missing + 1 => some ([], digits missing (read * 16 + digit))

/-- Takes a hexadecimal digit of a code point between braces. -/
def bracedDigit (read : Nat) (char : Char) : Option (List Nat × Mode) :=
  match Text.digit? 16 char with
  | none => none
  | some digit =>
    if read * 16 + digit ≤ 0x10FFFF then some ([], braced (some (read * 16 + digit))) else none

/-- Takes one character: the code units that are complete, and what comes next. -/
def step : Mode → Char → Option (List Nat × Mode)
  | start, char => first char
  | escape, char => escaped char
  | zero, char => if char.isDigit then none else first char
  | lineBreak, '\n' => some ([], start)
  | lineBreak, char => first char
  | unicode, '{' => some ([], braced none)
  | unicode, char => digit 3 0 char
  | digits missing read, char => digit missing read char
  | braced read, '}' => read.map fun point => (codeUnits point, start)
  | braced read, char => bracedDigit (read.getD 0) char

end Mode

/-- Reads a literal behind its opening quote: its value, and what follows the closing quote. -/
def read (quote : Char) : Mode → List Char → Option (List Nat × List Char)
  | _, [] => none
  | mode, char :: later =>
    if mode.mayEnd ∧ char = quote then some ([], later)
    else
      match mode.step char with
      | none => none
      | some (units, next) =>
        (read quote next later).map fun taken => (units ++ taken.1, taken.2)

/-- Whether a character between quotes stands for itself. -/
def IsPlain (quote char : Char) : Prop :=
  char ≠ quote ∧ char ≠ '\\' ∧ char ≠ '\n' ∧ char ≠ '\r'

instance (quote char : Char) : Decidable (IsPlain quote char) :=
  inferInstanceAs (Decidable (_ ∧ _))

/-- Every character has a code unit. -/
theorem codeUnits_length_pos (point : Nat) : 0 < (codeUnits point).length := by
  unfold codeUnits
  split <;> simp

/-- No character has more than two. -/
theorem codeUnits_length_le (point : Nat) : (codeUnits point).length ≤ 2 := by
  unfold codeUnits
  split <;> simp

/-- The value of a text goes on behind that of its first character. -/
theorem value_cons (char : Char) (text : List Char) :
    value (char :: text) = codeUnits char.toNat ++ value text :=
  rfl

/-- The value of two texts is that of the first and then that of the second. -/
theorem value_append (first second : List Char) :
    value (first ++ second) = value first ++ value second :=
  List.flatMap_append

/-! ### The length of a value -/

/-- How many code units more than characters may be left to come: a code point between braces may
take two code units at the closing brace, and the opening one has taken none. -/
def Mode.credit : Mode → Nat
  | .braced _ => 1
  | _ => 0

/-- The first character of a literal yields no more units than it has itself. -/
theorem Mode.length_first {char : Char} {units : List Nat} {next : Mode}
    (taken : Mode.first char = some (units, next)) :
    units.length + next.credit ≤ (codeUnits char.toNat).length := by
  unfold Mode.first at taken
  split at taken
  · cases taken
    exact Nat.zero_le _
  · split at taken
    · cases taken
    · cases taken
      exact Nat.le_refl _

/-- A character behind a backslash yields no more units than it has. -/
theorem Mode.length_escaped {char : Char} {units : List Nat} {next : Mode}
    (taken : Mode.escaped char = some (units, next)) :
    units.length + next.credit ≤ (codeUnits char.toNat).length := by
  have single (same : units.length + next.credit ≤ 1) :
      units.length + next.credit ≤ (codeUnits char.toNat).length :=
    Nat.le_trans same (codeUnits_length_pos _)
  unfold Mode.escaped at taken
  split at taken
  case h_14 =>
    split at taken
    · cases taken
    · cases taken
      exact Nat.le_refl _
  all_goals
    cases taken
    exact single (by decide)

/-- Neither does a digit of an escape, which yields none before the last one is read. -/
theorem Mode.length_digit {missing read : Nat} {char : Char} {units : List Nat} {next : Mode}
    (taken : Mode.digit missing read char = some (units, next)) :
    units.length + next.credit ≤ (codeUnits char.toNat).length := by
  have some := codeUnits_length_pos char.toNat
  unfold Mode.digit at taken
  split at taken
  · cases taken
  · cases taken
    exact some
  · cases taken
    exact Nat.zero_le _

/-- No character adds more code units than it has, beyond what was saved before. -/
theorem Mode.length_step {mode : Mode} {char : Char} {units : List Nat} {next : Mode}
    (taken : mode.step char = some (units, next)) :
    units.length + next.credit ≤ (codeUnits char.toNat).length + mode.credit := by
  have some := codeUnits_length_pos char.toNat
  unfold Mode.step at taken
  split at taken
  · exact Mode.length_first taken
  · exact Mode.length_escaped taken
  · split at taken
    · cases taken
    · exact Mode.length_first taken
  · cases taken
    exact Nat.zero_le _
  · exact Mode.length_first taken
  · cases taken
    exact some
  · exact Mode.length_digit taken
  · exact Mode.length_digit taken
  · obtain ⟨point, -, ended⟩ := Option.map_eq_some_iff.mp taken
    cases ended
    have few := codeUnits_length_le point
    exact Nat.le_trans few (Nat.succ_le_succ some)
  · unfold Mode.bracedDigit at taken
    split at taken
    · cases taken
    · split at taken
      · cases taken
        exact Nat.le_add_left ..
      · cases taken

/-- A literal has fewer code units than characters that were read, the closing quote included. -/
theorem length_le_of_read {quote : Char} {mode : Mode} {text rest : List Char} {units : List Nat}
    (taken : read quote mode text = some (units, rest)) :
    units.length + (value rest).length + 1 ≤ (value text).length + mode.credit := by
  induction text generalizing mode units with
  | nil => cases taken
  | cons char later ih =>
      rw [value_cons, List.length_append]
      unfold read at taken
      split at taken
      · cases taken
        have some := codeUnits_length_pos char.toNat
        rw [List.length_nil]
        omega
      · split at taken
        · cases taken
        · next first next stepped =>
          obtain ⟨⟨more, after⟩, reached, joined⟩ := Option.map_eq_some_iff.mp taken
          cases joined
          have step := Mode.length_step stepped
          have later := ih reached
          rw [List.length_append]
          dsimp only at later ⊢
          omega

/-! ### Texts that are read as themselves -/

variable {quote : Char}

/-- The quote ends the literal. -/
theorem read_quote (later : List Char) : read quote .start (quote :: later) = some ([], later) := by
  rw [read, if_pos ⟨rfl, rfl⟩]

/-- A plain character is read as itself. -/
theorem read_plain {char : Char} (plain : IsPlain quote char) (later : List Char) :
    read quote .start (char :: later) =
      (read quote .start later).map fun taken => (codeUnits char.toNat ++ taken.1, taken.2) := by
  obtain ⟨inside, solid, feed, carriage⟩ := plain
  have taken : Mode.start.step char = some (codeUnits char.toNat, .start) := by
    rw [Mode.step, Mode.first, if_neg solid, if_neg (not_or.mpr ⟨feed, carriage⟩)]
  rw [read, if_neg fun ends => inside ends.2, taken]

/-- The first character of a text that is read as itself stands for itself. -/
theorem isPlain_of_read (short : quote.toNat < 0x10000) {char : Char} {text rest : List Char}
    (taken : read quote .start (char :: (text ++ quote :: rest)) =
      some (codeUnits char.toNat ++ value text, rest)) : IsPlain quote char := by
  have pos := codeUnits_length_pos char.toNat
  have one : (codeUnits quote.toNat).length = 1 := by
    rw [codeUnits, if_pos short]
    rfl
  have inside : char ≠ quote := by
    -- otherwise the literal would end before the text
    rintro rfl
    rw [read_quote] at taken
    have none := (Prod.mk.inj (Option.some.inj taken)).1
    rw [eq_comm, List.append_eq_nil_iff] at none
    rw [none.1] at pos
    cases pos
  rw [read, if_neg fun ends => inside ends.2] at taken
  refine ⟨inside, ?_, ?_, ?_⟩
  · -- otherwise the value would be shorter than the text
    rintro rfl
    change Option.map _ (read quote .escape (text ++ quote :: rest)) = _ at taken
    obtain ⟨⟨units, after⟩, found, same⟩ := Option.map_eq_some_iff.mp taken
    obtain ⟨rfl, rfl⟩ : units = codeUnits '\\'.toNat ++ value text ∧ after = rest :=
      Prod.mk.inj same
    have least := length_le_of_read found
    have nothing : Mode.escape.credit = 0 := rfl
    rw [value_append, value_cons, List.length_append, List.length_append, List.length_append, one,
      nothing] at least
    omega
  · rintro rfl
    cases taken
  · rintro rfl
    cases taken

/-- **A text between quotes** is read as itself, up to the closing quote, exactly if each of its
characters stands for itself. -/
theorem read_quoted_iff (short : quote.toNat < 0x10000) (text rest : List Char) :
    read quote .start (text ++ quote :: rest) = some (value text, rest) ↔
      ∀ char ∈ text, IsPlain quote char := by
  induction text with
  | nil =>
      rw [List.nil_append, read_quote]
      simp [value]
  | cons char text ih =>
      rw [List.cons_append, List.forall_mem_cons, ← ih, value_cons]
      constructor
      · intro taken
        have plain := isPlain_of_read short taken
        rw [read_plain plain] at taken
        obtain ⟨⟨units, after⟩, found, same⟩ := Option.map_eq_some_iff.mp taken
        obtain ⟨joined, rfl⟩ : _ ∧ after = rest := Prod.mk.inj same
        obtain rfl : units = value text := List.append_cancel_left joined
        exact ⟨plain, found⟩
      · rintro ⟨plain, taken⟩
        rw [read_plain plain, taken]
        rfl

example : read '"' .start "a\\u{1F600}\\x41\\\n\\'\" b".toList =
    some (value "a😀A'".toList, " b".toList) := by
  decide +kernel

end ElementTypings.StringLiteral
