import ElementTypings.Text.Offset
import Mathlib.Data.List.TakeWhile

/-!
# From a byte to its line and back

The bytes before a place are those of whole lines and those of the line that the place is on
(`Position.linesLength_add_lastLength`). So the offset of the place that some bytes lead to is that
of the last of them, unless none of them is on the line: then it is the start of the line. It is
never on another line, and whatever place is asked for, its offset lies within the text
(`Position.offset_of_consumed`).
-/

namespace ElementTypings.Text.Position

/-- The number of bytes behind the last line end. -/
def lastLength (bytes : List UInt8) : Nat :=
  (bytes.reverse.takeWhile (· != newline)).length

theorem line_ofIndex (bytes : List UInt8) (index : Nat) :
    (ofIndex bytes index).line = (bytes.take index).count newline + 1 := rfl

theorem column_ofIndex (bytes : List UInt8) (index : Nat) :
    (ofIndex bytes index).column = lastLength (bytes.take index) := rfl

/-! ### The last line -/

/-- Without a line end, all bytes are on the last line. -/
theorem lastLength_of_not_mem {bytes : List UInt8} (absent : newline ∉ bytes) :
    lastLength bytes = bytes.length := by
  unfold lastLength
  rw [List.takeWhile_eq_self_iff.mpr, List.length_reverse]
  intro byte listed
  rw [bne_iff_ne]
  rintro rfl
  exact absent (List.mem_reverse.mp listed)

/-- What precedes a line end is not on the last line. -/
theorem lastLength_cons_of_mem {byte : UInt8} {rest : List UInt8}
    (ended : newline ∈ byte :: rest) : lastLength (byte :: rest) = lastLength rest := by
  unfold lastLength
  rw [List.reverse_cons, List.takeWhile_append]
  split
  · next whole =>
    -- The rest has no line end, so the first byte is the one.
    have others : newline ∉ rest := by
      intro listed
      have kept := List.takeWhile_eq_self_iff.mp (List.takeWhile_prefix _ |>.eq_of_length whole)
        newline (List.mem_reverse.mpr listed)
      exact bne_iff_ne.mp kept rfl
    obtain rfl := (List.mem_cons.mp ended).resolve_right others
    simp [whole]
  · rfl

/-- A byte on the last line is no line end. -/
theorem count_dropLast {bytes : List UInt8} (some : 0 < lastLength bytes) :
    bytes.dropLast.count newline = bytes.count newline := by
  rcases List.eq_nil_or_concat bytes with rfl | ⟨earlier, last, rfl⟩
  · rfl
  · have continues : newline ≠ last := by
      rintro rfl
      simp [lastLength] at some
    rw [List.concat_eq_append, List.dropLast_concat, List.count_append,
      List.count_singleton, beq_false_of_ne continues.symm]
    rfl

/-! ### Whole lines -/

/-- The bytes before a place are those of the lines before its line and those on its line. -/
theorem linesLength_add_lastLength (before after : List UInt8) :
    linesLength (before.count newline) (before ++ after) + lastLength before = before.length := by
  induction before with
  | nil => simp [linesLength, lastLength]
  | cons byte rest ih =>
      rw [List.cons_append, List.length_cons]
      by_cases ended : newline ∈ byte :: rest
      · rw [lastLength_cons_of_mem ended]
        obtain ⟨lines, counted⟩ : ∃ lines, (byte :: rest).count newline = lines + 1 :=
          Nat.exists_eq_add_one.mpr (List.count_pos_iff.mpr ended)
        rw [counted, linesLength]
        by_cases ends : byte = newline
        · subst ends
          rw [List.count_cons_self] at counted
          obtain rfl := Nat.succ.inj counted
          rw [if_pos rfl]
          omega
        · rw [List.count_cons_of_ne ends] at counted
          rw [counted] at ih
          rw [if_neg ends]
          omega
      · rw [List.count_eq_zero_of_not_mem ended, lastLength_of_not_mem ended, List.length_cons,
          linesLength, Nat.zero_add]

/-! ### Offsets -/

/-- The bytes that lead to a place are those before its line and those of its column. -/
theorem linesLength_ofIndex {bytes : List UInt8} {index : Nat} (within : index ≤ bytes.length) :
    linesLength ((ofIndex bytes index).line - 1) bytes + (ofIndex bytes index).column = index := by
  have whole := linesLength_add_lastLength (bytes.take index) (bytes.drop index)
  rw [List.take_append_drop, List.length_take_of_le within] at whole
  rw [line_ofIndex, column_ofIndex, Nat.add_sub_cancel, whole]

/-- Every place has an offset within the text. -/
theorem exists_offset? (bytes : List UInt8) {position : Position} (placed : 0 < position.line) :
    ∃ offset, position.offset? bytes = some offset ∧ offset ≤ bytes.length :=
  ⟨_, if_neg (Nat.ne_of_gt placed), Nat.min_le_right _ _⟩

/-- What the offset of a place has to be that some consumed bytes lead to. -/
structure Consumed (bytes : List UInt8) (index offset : Nat) : Prop where
  /-- It is that of the last consumed byte, or of the start of a line of which none was consumed. -/
  offset_eq : offset = if 0 < (ofIndex bytes index).column then index - 1 else index
  line_eq : (ofIndex bytes offset).line = (ofIndex bytes index).line
  le_length : offset ≤ bytes.length

/-- The place of an index leads back to an offset that has consumed it. -/
theorem consumed_ofIndex {bytes : List UInt8} {index : Nat} (within : index ≤ bytes.length) :
    ∃ offset, (ofIndex bytes index).offset? bytes = some offset ∧ Consumed bytes index offset := by
  have placed : 0 < (ofIndex bytes index).line := Nat.succ_pos _
  obtain ⟨offset, found, bounded⟩ := exists_offset? bytes placed
  have split := linesLength_ofIndex within
  have value : offset = if 0 < (ofIndex bytes index).column then index - 1 else index := by
    rw [offset?, if_neg (Nat.ne_of_gt placed), Option.some.injEq] at found
    rw [← found]
    split <;> omega
  refine ⟨offset, found, value, ?_, bounded⟩
  rw [value]
  split
  · next some =>
    have shorter : bytes.take (index - 1) = (bytes.take index).dropLast := by
      rw [List.dropLast_eq_take, List.take_take, List.length_take_of_le within,
        Nat.min_eq_left (Nat.sub_le index 1)]
    rw [line_ofIndex, shorter, count_dropLast some, line_ofIndex]
  · rfl

/-- **Places lead back to bytes.** The place that is reached after the first bytes of a text has the
offset of the last of them, or, if none of them is on its line, that of the start of the line. So
the offset is on the same line and within the text, and any other place with a line has an offset
within the text as well. -/
theorem offset_of_consumed (bytes : List UInt8) :
    (∀ index, index ≤ bytes.length →
        ∃ offset, (ofIndex bytes index).offset? bytes = some offset ∧
          Consumed bytes index offset) ∧
      ∀ position : Position, 0 < position.line →
        ∃ offset, position.offset? bytes = some offset ∧ offset ≤ bytes.length :=
  ⟨fun _ => consumed_ofIndex, fun _ => exists_offset? bytes⟩

/-- A text with both kinds of line ends, an empty line and a letter of two bytes. -/
theorem offset_of_consumed_of_mixed :
    let bytes := "\x7b\r\n\n\"é\":\n".toUTF8.data.toList
    bytes.length = 10 ∧
      (ofIndex bytes 3 = ⟨2, 0⟩ ∧ (⟨2, 0⟩ : Position).offset? bytes = some 3) ∧
      (ofIndex bytes 7 = ⟨3, 3⟩ ∧ (⟨3, 3⟩ : Position).offset? bytes = some 6) ∧
      (ofIndex bytes 10 = ⟨4, 0⟩ ∧ (⟨4, 0⟩ : Position).offset? bytes = some 10) ∧
      ∃ offset, (⟨2, 99⟩ : Position).offset? bytes = some offset ∧ offset ≤ 10 := by
  intro bytes
  have size : bytes.length = 10 := by decide +kernel
  obtain ⟨back, within⟩ := offset_of_consumed bytes
  have lead (index : Nat) (position : Position) (inside : index ≤ 10)
      (placed : ofIndex bytes index = position) :
      position.offset? bytes = some (if 0 < position.column then index - 1 else index) := by
    obtain ⟨offset, found, consumed⟩ := back index (size ▸ inside)
    rw [← placed, ← consumed.offset_eq, found]
  have blank : ofIndex bytes 3 = ⟨2, 0⟩ := by decide +kernel
  have letter : ofIndex bytes 7 = ⟨3, 3⟩ := by decide +kernel
  have last : ofIndex bytes 10 = ⟨4, 0⟩ := by decide +kernel
  exact ⟨size, ⟨blank, lead 3 _ (by decide) blank⟩, ⟨letter, lead 7 _ (by decide) letter⟩,
    ⟨last, lead 10 _ (by decide) last⟩, size ▸ within ⟨2, 99⟩ (by decide)⟩

end ElementTypings.Text.Position
