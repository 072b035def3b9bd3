import ElementTypings.Text.Offset
import Mathlib.Data.List.Basic

/-!
# Where a text occurs

A text stands at an offset of a document if it follows that many bytes (`StandsAt`), and it occurs
next from a place on at the least offset there at which it stands (`OccursNext`). A search finds the
next occurrence from the start of the document, then the next one behind that, and so on
(`exists_occurrences_iff`).
-/

namespace ElementTypings.Text

/-- The text stands in the document behind so many bytes. -/
def StandsAt (text document : String) (offset : Nat) : Prop :=
  ∃ before after, document.toList = before ++ (text.toList ++ after) ∧ Cursor.size before = offset

/-- The least offset from a place on at which the text stands. -/
structure OccursNext (text document : String) (start offset : Nat) : Prop where
  behind : start ≤ offset
  stands : StandsAt text document offset
  least : ∀ other, start ≤ other → StandsAt text document other → offset ≤ other

/-! ### Bytes and places -/

theorem size_eq_zero_iff {text : List Char} : Cursor.size text = 0 ↔ text = [] := by
  cases text with
  | nil => exact iff_of_true rfl rfl
  | cons char rest =>
      have positive := char.utf8Size_pos
      rw [size_cons]
      exact iff_of_false (by omega) (List.cons_ne_nil char rest)

theorem utf8ByteSize_ofList (text : List Char) :
    (String.ofList text).utf8ByteSize = Cursor.size text := by
  induction text with
  | nil => rfl
  | cons char rest ih =>
      rw [String.ofList_cons, String.utf8ByteSize_append, ih, size_cons,
        String.utf8ByteSize_singleton]

theorem size_toList (text : String) : Cursor.size text.toList = text.utf8ByteSize := by
  rw [← utf8ByteSize_ofList, String.ofList_toList]

/-- Of two places of a text, the one that no fewer bytes precede is the later one. -/
theorem exists_between {before rest earlier later : List Char}
    (same : before ++ rest = earlier ++ later)
    (behind : Cursor.size before ≤ Cursor.size earlier) :
    ∃ between, earlier = before ++ between ∧ rest = between ++ later := by
  rcases List.append_eq_append_iff.mp same with ⟨between, rfl, rfl⟩ | ⟨between, rfl, rfl⟩
  · exact ⟨between, rfl, rfl⟩
  · rw [size_append] at behind
    obtain rfl := size_eq_zero_iff.mp (show Cursor.size between = 0 by omega)
    exact ⟨[], by simp, rfl⟩

/-- Beginnings of a text with the same number of bytes are the same. -/
theorem eq_of_size_eq {before rest earlier later : List Char}
    (same : before ++ rest = earlier ++ later)
    (size : Cursor.size before = Cursor.size earlier) : before = earlier ∧ rest = later := by
  obtain ⟨between, rfl, rfl⟩ := exists_between same (Nat.le_of_eq size)
  rw [size_append] at size
  obtain rfl := size_eq_zero_iff.mp (show Cursor.size between = 0 by omega)
  exact ⟨(List.append_nil before).symm, rfl⟩

/-- One text of so many bytes stands at an offset. -/
theorem StandsAt.unique {text other document : String} {offset : Nat}
    (stands : StandsAt text document offset) (standsToo : StandsAt other document offset)
    (size : text.utf8ByteSize = other.utf8ByteSize) : text = other := by
  obtain ⟨before, after, split, rfl⟩ := stands
  obtain ⟨earlier, later, splitToo, place⟩ := standsToo
  obtain ⟨-, same⟩ := eq_of_size_eq (split.symm.trans splitToo) place.symm
  rw [← size_toList, ← size_toList] at size
  exact String.toList_injective (eq_of_size_eq same size).1

/-! ### One occurrence after another -/

/-- The characters that belong to an occurrence are passed over. -/
theorem occurrencesFrom_skip (needle text : List Char) (skip index : Nat) :
    occurrencesFrom needle skip index text =
      occurrencesFrom needle 0 (index + Cursor.size (text.take skip)) (text.drop skip) := by
  induction text generalizing skip index with
  | nil => simp [occurrencesFrom]
  | cons char rest ih =>
      cases skip with
      | zero => rfl
      | succ skip =>
          rw [occurrencesFrom, ih, List.take_succ_cons, List.drop_succ_cons, size_cons,
            Nat.add_assoc]

/-- A needle that stands first is found, and the search goes on behind it. -/
theorem occurrencesFrom_here {needle : List Char} (solid : needle ≠ []) (after : List Char)
    (index : Nat) :
    occurrencesFrom needle 0 index (needle ++ after) =
      index :: occurrencesFrom needle 0 (index + Cursor.size needle) after := by
  obtain ⟨char, later, rfl⟩ := List.exists_cons_of_ne_nil solid
  rw [List.cons_append, occurrencesFrom, if_pos, occurrencesFrom_skip, size_cons, Nat.add_assoc]
  · simp
  · exact List.isPrefixOf_iff_prefix.mpr (List.prefix_append (char :: later) after)

/-- A search from a place on ends with nothing if the text does not occur there any more, or else
goes on behind the next occurrence. -/
theorem occurrencesFrom_cases {needle document : String} (solid : needle ≠ "")
    {before rest : List Char} (split : document.toList = before ++ rest) :
    occurrencesFrom needle.toList 0 (Cursor.size before) rest = [] ∧
        (∀ offset, Cursor.size before ≤ offset → ¬ StandsAt needle document offset) ∨
      ∃ between after, rest = between ++ (needle.toList ++ after) ∧
        OccursNext needle document (Cursor.size before) (Cursor.size (before ++ between)) ∧
        occurrencesFrom needle.toList 0 (Cursor.size before) rest =
          Cursor.size (before ++ between) :: occurrencesFrom needle.toList 0
            (Cursor.size (before ++ between ++ needle.toList)) after := by
  have solid : needle.toList ≠ [] := fun empty => solid (String.toList_eq_nil_iff.mp empty)
  induction rest generalizing before with
  | nil =>
      left
      refine ⟨by rw [occurrencesFrom], ?_⟩
      rintro offset behind ⟨earlier, later, splitToo, rfl⟩
      obtain ⟨between, rfl, empty⟩ := exists_between (split.symm.trans splitToo) behind
      exact solid (List.append_eq_nil_iff.mp (List.append_eq_nil_iff.mp empty.symm).2).1
  | cons char rest ih =>
      by_cases here : needle.toList <+: char :: rest
      · obtain ⟨after, same⟩ := here
        right
        refine ⟨[], after, same.symm, ⟨by simp, ⟨before, after, ?_, by simp⟩, ?_⟩, ?_⟩
        · rw [split, same]
        · intro other behind _
          simpa using behind
        · rw [← same, occurrencesFrom_here solid, List.append_nil, size_append]
      · have onward : occurrencesFrom needle.toList 0 (Cursor.size before) (char :: rest) =
            occurrencesFrom needle.toList 0 (Cursor.size (before ++ [char])) rest := by
          rw [occurrencesFrom, if_neg (mt List.isPrefixOf_iff_prefix.mp here), size_append]
          rfl
        -- Since the text does not stand here, it stands behind the next character if at all.
        have later (offset : Nat) (behind : Cursor.size before ≤ offset)
            (stands : StandsAt needle document offset) :
            Cursor.size (before ++ [char]) ≤ offset := by
          obtain ⟨earlier, after, splitToo, rfl⟩ := stands
          obtain ⟨between, rfl, same⟩ := exists_between (split.symm.trans splitToo) behind
          cases between with
          | nil => exact absurd ⟨after, same.symm⟩ here
          | cons first between =>
              obtain ⟨rfl, -⟩ := List.cons.inj same
              rw [List.append_cons before char between, size_append (before ++ [char]) between]
              exact Nat.le_add_right _ _
        have split : document.toList = before ++ [char] ++ rest := by
          rw [split, List.append_cons]
        rw [onward]
        rcases ih split with ⟨none, absent⟩ | ⟨between, after, rfl, next, found⟩
        · left
          refine ⟨none, fun offset behind stands => ?_⟩
          exact absent offset (later offset behind stands) stands
        · right
          rw [← List.append_cons] at next found
          refine ⟨char :: between, after, rfl, ⟨?_, next.stands, ?_⟩, found⟩
          · rw [size_append]
            exact Nat.le_add_right _ _
          · exact fun other behind stands => next.least other (later other behind stands) stands

/-- The next occurrence is at one offset. -/
theorem OccursNext.unique {text document : String} {start offset other : Nat}
    (first : OccursNext text document start offset)
    (second : OccursNext text document start other) : offset = other :=
  Nat.le_antisymm (first.least other second.behind second.stands)
    (second.least offset first.behind first.stands)

/-- The first two places that are found are the next occurrence from the start on, and the next one
behind that. -/
theorem exists_occurrences_iff {needle document : String} (solid : needle ≠ "")
    {first second : Nat} :
    (∃ later, occurrences needle document = first :: second :: later) ↔
      OccursNext needle document 0 first ∧
        OccursNext needle document (first + needle.utf8ByteSize) second := by
  have start : document.toList = [] ++ document.toList := rfl
  unfold occurrences
  rcases occurrencesFrom_cases solid start with
    ⟨none, absent⟩ | ⟨between, after, split, next, found⟩
  · change occurrencesFrom needle.toList 0 0 document.toList = [] at none
    rw [none]
    constructor
    · rintro ⟨later, impossible⟩
      cases impossible
    · rintro ⟨next, -⟩
      exact absurd next.stands (absent first (Nat.zero_le first))
  · change occurrencesFrom needle.toList 0 0 document.toList = _ at found
    rw [List.nil_append] at next found
    have split : document.toList = (between ++ needle.toList) ++ after := by
      rw [split, List.append_assoc]
    rw [found]
    rcases occurrencesFrom_cases solid split with
      ⟨none, absent⟩ | ⟨between', after, split, onward, foundToo⟩
    · rw [none]
      constructor
      · rintro ⟨later, impossible⟩
        cases impossible
      · rintro ⟨same, onward⟩
        obtain rfl := next.unique same
        refine absurd onward.stands (absent second ?_)
        rw [size_append, size_toList]
        exact onward.behind
    · rw [foundToo]
      rw [size_append between, size_toList] at onward
      constructor
      · rintro ⟨later, same⟩
        cases same
        exact ⟨next, onward⟩
      · rintro ⟨same, next'⟩
        obtain rfl := next.unique same
        obtain rfl := onward.unique next'
        exact ⟨_, rfl⟩

end ElementTypings.Text
