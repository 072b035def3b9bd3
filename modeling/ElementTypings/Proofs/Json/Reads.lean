import ElementTypings.Json.Typed
import Mathlib.Tactic.IntervalCases

/-!
# Texts that a reader takes

A reader takes a text if it gives a value for it and leaves what follows, wherever the text stands
in its document (`Json.Reader.Reads`). Readers that are run one after another take one text after
another (`Json.Reader.Reads.bind`). A string literal is taken as the string that it was written for
(`Json.Reader.reads_quoted`).
-/

namespace ElementTypings.Json

open Text (Cursor)

namespace Reader

variable {First Second : Type}

/-- Reading the text gives the value and leaves the rest, at whatever index the text starts. -/
def Reads (reader : Reader First) (text : List Char) (value : First) (rest : List Char) : Prop :=
  ∀ index, ∃ later, reader { rest := text, index } = .ok (value, { rest, index := later })

variable {first : Reader First} {next : First → Reader Second} {text middle rest : List Char}
  {value : First} {result : Second}

/-- A reader that takes nothing leaves the text as it is. -/
theorem Reads.pure (value : First) (text : List Char) : Reads (Pure.pure value) text value text :=
  fun index => ⟨index, rfl⟩

/-- Two readers take one text after the other. -/
theorem Reads.bind (taken : Reads first text value middle)
    (later : Reads (next value) middle result rest) : Reads (first >>= next) text result rest := by
  intro index
  obtain ⟨between, taken⟩ := taken index
  obtain ⟨behind, later⟩ := later between
  refine ⟨behind, ?_⟩
  change first { rest := text, index } >>= (fun read => next read.1 read.2) = _
  rw [taken]
  exact later

/-! ### Single characters -/

variable {char : Char}

/-- Looking at the next character takes nothing. -/
theorem reads_peek (text : List Char) : Reads peek text text.head? text :=
  fun index => ⟨index, rfl⟩

theorem reads_advance (char : Char) (rest : List Char) : Reads advance (char :: rest) () rest :=
  fun index => ⟨index + char.utf8Size, rfl⟩

/-- At the end of the text there is no token. -/
theorem reads_peekToken_nil : Reads peekToken [] none [] :=
  fun index => ⟨index, rfl⟩

/-- A character that is no space is the next token. -/
theorem reads_peekToken (solid : isSpace char = false) (rest : List Char) :
    Reads peekToken (char :: rest) (some char) (char :: rest) := by
  intro index
  have stays : Cursor.dropWhile isSpace { rest := char :: rest, index } =
      { rest := char :: rest, index } := by
    simp [Cursor.dropWhile, Cursor.size, solid]
  refine ⟨index, ?_⟩
  change Except.ok (List.head? (Cursor.dropWhile isSpace { rest := char :: rest, index }).rest,
    Cursor.dropWhile isSpace { rest := char :: rest, index }) = _
  rw [stays]
  rfl

/-- The letters of a word are taken one by one. -/
theorem reads_letters (word rest : List Char) : Reads (letters word) (word ++ rest) () rest := by
  induction word with
  | nil => exact Reads.pure () rest
  | cons letter later ih =>
      refine (reads_peek _).bind ?_
      change Reads (if letter = letter then _ else _) _ _ _
      rw [if_pos rfl]
      exact (reads_advance letter _).bind ih

/-! ### String literals -/

section StringLiterals

variable {read : List Char} {index : Nat}

/-- The closing quote ends the string with what was read of it. -/
theorem stringRest_quote (read rest : List Char) (index : Nat) :
    stringRest read { rest := '"' :: rest, index } =
      .ok (String.ofList read.reverse, { rest, index := index + 1 }) := by
  rw [stringRest]
  rfl

/-- A character that may stand in a string as it is is added to it. -/
theorem stringRest_plain (quote : char ≠ '"') (solid : char ≠ '\\')
    (printable : ¬ char.toNat < 0x20) (read rest : List Char) (index : Nat) :
    stringRest read { rest := char :: rest, index } =
      stringRest (char :: read) { rest, index := index + char.utf8Size } := by
  rw [stringRest]
  split
  · next same => cases same
  · next same =>
    cases same
    exact absurd rfl quote
  · next same =>
    cases same
    exact absurd rfl solid
  · next same =>
    cases same
    rw [if_neg printable]

/-- The character that an escape gives, and what follows it. -/
def Escapes (escaped : List Char) (char : Char) : Prop :=
  ∀ rest index, ∃ later, (escape { rest := escaped ++ rest, index }).map Subtype.val =
    .ok (char, { rest, index := later })

/-- An escape adds the character that it stands for. -/
theorem stringRest_escape {escaped : List Char} (escapes : Escapes escaped char)
    (read rest : List Char) (index : Nat) :
    ∃ later, stringRest read { rest := '\\' :: (escaped ++ rest), index } =
      stringRest (char :: read) { rest, index := later } := by
  obtain ⟨later, taken⟩ := escapes rest (index + 1)
  refine ⟨later, ?_⟩
  rw [stringRest]
  cases found : escape { rest := escaped ++ rest, index := index + 1 } with
  | error problem =>
      rw [found] at taken
      cases taken
  | ok read =>
      obtain ⟨⟨_, _⟩, _⟩ := read
      rw [found] at taken
      cases taken
      simp only [found]

/-- A backslash and a letter are an escape of the character that is known for the letter. -/
theorem escapes_letter {letter : Char} (known : Literal.escaped? letter = some char) :
    Escapes [letter] char := by
  intro rest index
  refine ⟨index + 1, ?_⟩
  unfold Literal.escaped? at known
  split at known <;> cases known <;> rfl

/-- A control character is escaped by its code in four digits. -/
theorem escapes_low (low : char.toNat < 0x20) :
    Escapes ['u', '0', '0', Literal.hexDigit (char.toNat / 16), Literal.hexDigit char.toNat]
      char := by
  intro rest index
  refine ⟨index + 5, ?_⟩
  obtain ⟨code, same⟩ : ∃ code, char.toNat = code := ⟨_, rfl⟩
  have known : char = Char.ofNat code := by rw [← same, Char.ofNat_toNat]
  rw [same] at low ⊢
  rw [known]
  clear same known
  interval_cases code <;> rfl

/-- A character is read back from its place in a literal. -/
theorem stringRest_encodeChar (char : Char) (read rest : List Char) (index : Nat) :
    ∃ later, stringRest read { rest := Literal.encodeChar char ++ rest, index } =
      stringRest (char :: read) { rest, index := later } := by
  unfold Literal.encodeChar
  split
  case h_8 quote solid _ _ _ _ _ =>
    split
    · next low => exact stringRest_escape (escapes_low low) read rest index
    · next printable => exact ⟨_, stringRest_plain quote solid printable read rest index⟩
  all_goals exact stringRest_escape (escapes_letter rfl) read rest index

/-- **A string is read back.** What is written for the characters of a string, up to the closing
quote, is taken as that string. -/
theorem reads_stringBody (text rest : List Char) :
    Reads stringBody (text.flatMap Literal.encodeChar ++ '"' :: rest) (String.ofList text)
      rest := by
  intro index
  have taken (read : List Char) (index : Nat) :
      ∃ later, stringRest read
          { rest := text.flatMap Literal.encodeChar ++ '"' :: rest, index } =
        .ok (String.ofList (read.reverse ++ text), { rest, index := later }) := by
    induction text generalizing read index with
    | nil =>
        rw [List.append_nil]
        exact ⟨_, stringRest_quote read rest index⟩
    | cons char later ih =>
        obtain ⟨middle, first⟩ := stringRest_encodeChar char read
          (later.flatMap Literal.encodeChar ++ '"' :: rest) index
        obtain ⟨last, others⟩ := ih (char :: read) middle
        rw [List.reverse_cons, List.append_assoc, List.singleton_append] at others
        rw [List.flatMap_cons, List.append_assoc, first]
        exact ⟨last, others⟩
  exact taken [] index

end StringLiterals

/-- A literal is the quote, what is written for the characters, and the quote again. -/
theorem toList_quoted (text : String) : (Literal.quoted text).toList =
    '"' :: (text.toList.flatMap Literal.encodeChar ++ ['"']) := by
  rw [Literal.quoted, String.toList_ofList]
  rfl

/-- A literal is taken as the string that it was written for. -/
theorem reads_quoted (expected text : String) (rest : List Char) :
    Reads (string expected) ((Literal.quoted text).toList ++ rest) text rest := by
  rw [toList_quoted, List.cons_append, List.append_assoc, List.singleton_append]
  have body := reads_stringBody text.toList rest
  rw [String.ofList_toList] at body
  exact (reads_peekToken rfl _).bind ((reads_advance _ _).bind body)

end Reader

end ElementTypings.Json
