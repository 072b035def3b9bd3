import ElementTypings.Proofs.Json.Containers
import ElementTypings.Proofs.Outcome
import ElementTypings.Text.Offset

/-!
# String literals in place

What a string was read from is a literal of its own: the reader takes it as the same string wherever
it stands (`Json.Reader.exact_stringBody`). Readers that are exact in this sense move the place by
the bytes of what they take, and stay exact one after another (`Json.Reader.Exact.bind`).
-/

namespace ElementTypings.Json

open Text (Cursor)

/-! ### Characters of one byte -/

/-- A character up to one of ASCII takes one byte. -/
theorem utf8Size_of_le {char : Char} (last : Char) (below : char ≤ last)
    (ascii : last.toNat ≤ 127) : char.utf8Size = 1 :=
  Char.utf8Size_eq_one_iff.mpr (UInt32.le_iff_toNat_le.mpr (Nat.le_trans below ascii))

/-- A decimal digit takes one byte. -/
theorem utf8Size_of_isDigit {char : Char} (digit : char.isDigit) : char.utf8Size = 1 :=
  utf8Size_of_le '9' (Char.isDigit_iff_toNat.mp digit).2 (by decide)

/-- A digit of any base up to sixteen takes one byte. -/
theorem utf8Size_of_digit? {base value : Nat} {char : Char}
    (digit : Text.digit? base char = some value) : char.utf8Size = 1 := by
  obtain ⟨found, -⟩ := Option.filter_eq_some_iff.mp digit
  split at found
  · next decimal => exact utf8Size_of_isDigit decimal
  · split at found
    · next lower => exact utf8Size_of_le 'f' lower.2 (by decide)
    · split at found
      · next upper => exact utf8Size_of_le 'F' upper.2 (by decide)
      · cases found

/-- Hexadecimal digits take as many bytes as there are digits. -/
theorem size_of_hexValue? {digits : List Char} {value : Nat}
    (known : Text.hexValue? digits = some value) : Cursor.size digits = digits.length := by
  obtain ⟨values, read, -⟩ := Option.map_eq_some_iff.mp known
  clear known
  induction digits generalizing values with
  | nil => rfl
  | cons digit later ih =>
      rw [List.mapM_cons] at read
      obtain ⟨first, found, read⟩ := Option.bind_eq_some_iff.mp read
      obtain ⟨others, foundToo, -⟩ := Option.bind_eq_some_iff.mp read
      rw [Text.size_cons, utf8Size_of_digit? found, ih others foundToo, List.length_cons,
        Nat.add_comm]

/-- So do the decimal digits at the start of a text. -/
theorem size_takeWhile_isDigit (text : List Char) :
    Cursor.size (text.takeWhile Char.isDigit) = (text.takeWhile Char.isDigit).length := by
  induction text with
  | nil => rfl
  | cons char later ih =>
      rw [List.takeWhile_cons]
      split
      · next digit =>
        rw [Text.size_cons, utf8Size_of_isDigit digit, ih, List.length_cons, Nat.add_comm]
      · rfl

/-- The letter of an escape takes one byte. -/
theorem utf8Size_of_escaped? {letter char : Char} (known : Literal.escaped? letter = some char) :
    letter.utf8Size = 1 := by
  unfold Literal.escaped? at known
  split at known
  case h_9 => cases known
  all_goals rfl

namespace Reader

variable {First Second : Type} {first : Reader First} {next : First → Reader Second}

/-- Where two readers succeed one after the other, the first one does, and the second one goes on
from where it stopped. -/
theorem exists_of_bind {cursor behind : Cursor} {result : Second}
    (read : (first >>= next) cursor = .ok (result, behind)) :
    ∃ value middle, first cursor = .ok (value, middle) ∧
      next value middle = .ok (result, behind) := by
  obtain ⟨⟨value, middle⟩, found, read⟩ := bind_eq_ok_iff.mp read
  exact ⟨value, middle, found, read⟩

/-! ### Exact readers -/

/-- The cursor that follows is behind a text that the reader takes as the value anywhere. -/
def TakenAt (reader : Reader First) (cursor : Cursor) (value : First) (behind : Cursor) : Prop :=
  ∃ taken, cursor.rest = taken ++ behind.rest ∧
    behind.index = cursor.index + Cursor.size taken ∧ Takes reader taken value

/-- Whatever is read is taken from a text that is taken as the same value anywhere. -/
def Exact (reader : Reader First) : Prop :=
  ∀ cursor value behind, reader cursor = .ok (value, behind) → TakenAt reader cursor value behind

/-- A reader that takes nothing is exact. -/
theorem Exact.pure (value : First) : Exact (Pure.pure value) := by
  intro cursor _ _ read
  cases read
  exact ⟨[], rfl, rfl, Reads.pure value⟩

/-- A reader that only fails is exact, for want of anything that it takes. -/
theorem exact_fail (fault : Fault) : Exact (fail fault : Reader First) :=
  nofun

/-- What two readers take one after the other is taken by both of them together. -/
theorem TakenAt.bind {cursor middle behind : Cursor} {value : First} {result : Second}
    (taken : TakenAt first cursor value middle)
    (later : TakenAt (next value) middle result behind) :
    TakenAt (first >>= next) cursor result behind := by
  obtain ⟨text, split, place, takes⟩ := taken
  obtain ⟨more, splitMore, placeMore, takesMore⟩ := later
  refine ⟨text ++ more, ?_, ?_, fun rest => ?_⟩
  · rw [split, splitMore, List.append_assoc]
  · rw [placeMore, place, Text.size_append, Nat.add_assoc]
  · rw [List.append_assoc]
    exact (takes _).bind (takesMore rest)

/-- Exact readers are exact one after the other. -/
theorem Exact.bind (exact : Exact first) (later : ∀ value, Exact (next value)) :
    Exact (first >>= next) := by
  intro cursor result behind read
  obtain ⟨value, middle, found, read⟩ := exists_of_bind read
  exact (exact cursor value middle found).bind (later value middle result behind read)

/-- A reader that passes over a text and goes on as another one takes the text as well. -/
theorem TakenAt.behind {reader inner : Reader First} (lead : List Char) {rest : List Char}
    {index : Nat} {value : First} {behind : Cursor}
    (same : ∀ rest index, reader { rest := lead ++ rest, index } =
      inner { rest, index := index + Cursor.size lead })
    (taken : TakenAt inner { rest, index := index + Cursor.size lead } value behind) :
    TakenAt reader { rest := lead ++ rest, index } value behind := by
  obtain ⟨text, split, place, takes⟩ := taken
  dsimp only at split place
  refine ⟨lead ++ text, ?_, ?_, fun rest index => ?_⟩
  · rw [split, List.append_assoc]
  · rw [place, Text.size_append, Nat.add_assoc]
  · rw [List.append_assoc, same]
    exact takes rest _

/-! ### Escapes -/

/-- Four hexadecimal digits. -/
def unit : Reader Nat := fun cursor =>
  (hexUnit cursor).map Subtype.val

/-- The second half of a character that is escaped as two surrogates. -/
def trailing (leading : Nat) : Reader Char := fun cursor =>
  (trailingUnit leading cursor).map Subtype.val

/-- The character of an escape whose backslash has been read. -/
def escaped : Reader Char := fun cursor =>
  (escape cursor).map Subtype.val

/-- The four digits of a code unit are read wherever they stand. -/
theorem exact_unit : Exact unit := by
  rintro ⟨text, index⟩ value behind read
  obtain ⟨⟨_, _⟩, read, rfl⟩ := map_eq_ok_iff.mp read
  unfold hexUnit at read
  dsimp only at read
  split at read
  · next first second third fourth rest _ _ =>
    split at read
    · next value known =>
      cases read
      refine ⟨[first, second, third, fourth], rfl, ?_, fun rest index => ⟨index + 4, ?_⟩⟩
      · rw [size_of_hexValue? known]
        rfl
      · simp only [unit, List.cons_append, List.nil_append, hexUnit, known, Except.map]
    · cases read
  · cases read

/-- The second half of a pair is read behind the two characters that announce it. -/
theorem trailing_eq (leading : Nat) (rest : List Char) (index : Nat) :
    trailing leading { rest := ['\\', 'u'] ++ rest, index } =
      (do
        let second ← unit
        if Literal.isTrailing second then return Literal.ofSurrogates leading second
        else fail .loneSurrogate : Reader Char) { rest, index := index + 2 } := by
  change Except.map Subtype.val (hexUnit { rest, index := index + 2 } >>= fun found =>
      if Literal.isTrailing found.1.1 then _ else _) =
    Except.map Subtype.val (hexUnit { rest, index := index + 2 }) >>= fun found =>
      (if Literal.isTrailing found.1 then _ else _ : Reader Char) found.2
  cases hexUnit { rest, index := index + 2 } with
  | error problem => rfl
  | ok found =>
      change Except.map Subtype.val (if Literal.isTrailing found.1.1 then _ else _) =
        (if Literal.isTrailing found.1.1 then _ else _ : Reader Char) found.1.2
      split <;> rfl

/-- The second half of a pair of code units is read wherever it stands. -/
theorem exact_trailing (leading : Nat) : Exact (trailing leading) := by
  rintro ⟨text, index⟩ char behind read
  have begins : ∃ rest, text = ['\\', 'u'] ++ rest := by
    obtain ⟨_, read, -⟩ := map_eq_ok_iff.mp read
    unfold trailingUnit at read
    dsimp only at read
    split at read
    · exact ⟨_, rfl⟩
    all_goals cases read
  obtain ⟨rest, rfl⟩ := begins
  refine .behind _ (trailing_eq leading) ?_
  rw [trailing_eq] at read
  refine (exact_unit.bind fun second => ?_) _ _ _ read
  split
  · exact .pure _
  · exact exact_fail _

/-- Behind the letter `u` stands a code unit, and a second one if the first is half of a pair. -/
theorem escaped_eq (rest : List Char) (index : Nat) :
    escaped { rest := ['u'] ++ rest, index } =
      (do
        let first ← unit
        if Literal.isTrailing first then fail .loneSurrogate
        else if Literal.isLeading first then trailing first
        else return Char.ofNat first : Reader Char) { rest, index := index + 1 } := by
  change Except.map Subtype.val (hexUnit { rest, index := index + 1 } >>= fun found =>
      if Literal.isTrailing found.1.1 then _ else if Literal.isLeading found.1.1 then _ else _) =
    Except.map Subtype.val (hexUnit { rest, index := index + 1 }) >>= fun found =>
      (if Literal.isTrailing found.1 then _ else if Literal.isLeading found.1 then _ else _ :
        Reader Char) found.2
  cases hexUnit { rest, index := index + 1 } with
  | error problem => rfl
  | ok found =>
      change Except.map Subtype.val (if Literal.isTrailing found.1.1 then _
          else if Literal.isLeading found.1.1 then _ else _) =
        (if Literal.isTrailing found.1.1 then _ else if Literal.isLeading found.1.1 then _ else _ :
          Reader Char) found.1.2
      split
      · rfl
      · split
        · change _ = Except.map _ (trailingUnit found.1.1 found.1.2)
          cases trailingUnit found.1.1 found.1.2 <;> rfl
        · rfl

/-- What stands behind a backslash is read wherever it stands. -/
theorem exact_escaped : Exact escaped := by
  rintro ⟨text, index⟩ char behind read
  obtain ⟨⟨_, _⟩, inner, same⟩ := map_eq_ok_iff.mp read
  unfold escape at inner
  dsimp only at inner
  split at inner
  · cases inner
  · next rest _ =>
    refine .behind _ escaped_eq ?_
    rw [show 'u' :: rest = ['u'] ++ rest from rfl, escaped_eq] at read
    refine (exact_unit.bind fun first => ?_) _ _ _ read
    split
    · exact exact_fail _
    · split
      · exact exact_trailing first
      · exact .pure _
  · next letter rest _ _ =>
    split at inner
    · next known =>
      cases inner
      cases same
      refine ⟨[letter], rfl, ?_, escapes_letter known⟩
      rw [Text.size_cons, utf8Size_of_escaped? known]
      rfl
    · cases inner

/-! ### Strings -/

/-- A backslash is followed by an escape, and then the string goes on. -/
theorem stringRest_backslash (read rest : List Char) (index : Nat) :
    stringRest read { rest := ['\\'] ++ rest, index } =
      (do stringRest ((← escaped) :: read) : Reader String) { rest, index := index + 1 } := by
  change stringRest read { rest := '\\' :: rest, index } =
    escaped { rest, index := index + 1 } >>= fun found => stringRest (found.1 :: read) found.2
  rw [stringRest]
  unfold escaped
  cases found : escape { rest, index := index + 1 } with
  | error problem =>
      simp only [found]
      rfl
  | ok read =>
      simp only [found]
      rfl

/-- A control character ends the reading of a string with a fault. -/
theorem stringRest_control {char : Char} (quote : char ≠ '"') (solid : char ≠ '\\')
    (control : char.toNat < 0x20) (read rest : List Char) (index : Nat) :
    stringRest read { rest := char :: rest, index } =
      .error (.placed .controlCharacter (index + 1)) := by
  rw [stringRest]
  split
  · next same => cases same
  · next same =>
    cases same
    exact absurd rfl quote
  · next same =>
    cases same
    exact absurd rfl solid
  · next same =>
    cases same
    rw [if_pos control]

/-- A string that has been begun is read to its closing quote wherever it stands. -/
theorem exact_stringRest (read : List Char) : Exact (stringRest read) := by
  rintro ⟨text, index⟩ value behind taken
  induction same : text.length using Nat.strong_induction_on generalizing read text index with
  | _ length ih =>
    cases text with
    | nil =>
        rw [stringRest] at taken
        cases taken
    | cons char rest =>
        have shorter : rest.length < length := by
          rw [← same]
          exact Nat.lt_succ_self _
        by_cases quote : char = '"'
        · subst quote
          rw [stringRest_quote] at taken
          cases taken
          exact ⟨['"'], rfl, rfl, fun rest index => ⟨_, stringRest_quote read rest index⟩⟩
        by_cases backslash : char = '\\'
        · subst backslash
          refine .behind _ (stringRest_backslash read) ?_
          rw [show '\\' :: rest = ['\\'] ++ rest from rfl, stringRest_backslash] at taken
          obtain ⟨⟨char, middle⟩, found, taken⟩ := bind_eq_ok_iff.mp taken
          have here := exact_escaped _ _ _ found
          have least : middle.rest.length ≤ rest.length := by
            obtain ⟨text, split, -⟩ := here
            dsimp only at split
            rw [split, List.length_append]
            exact Nat.le_add_left _ _
          exact here.bind (ih _ (Nat.lt_of_le_of_lt least shorter) _ _ _ taken rfl)
        by_cases control : char.toNat < 0x20
        · rw [stringRest_control quote backslash control] at taken
          cases taken
        · rw [stringRest_plain quote backslash control] at taken
          exact .behind [char] (stringRest_plain quote backslash control read)
            (ih _ shorter _ _ _ taken rfl)

/-- **Literals are read alike everywhere.** What was read as a string from one place of a text is
read as the same string wherever else it stands. -/
theorem exact_stringBody : Exact stringBody :=
  exact_stringRest []

end Reader

end ElementTypings.Json
