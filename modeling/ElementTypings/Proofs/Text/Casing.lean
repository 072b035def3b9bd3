import ElementTypings.Text.Casing
import Mathlib.Logic.Basic

/-!
# Where lower and upper case undo each other

The case tables give ASCII its own mappings (`Text.lowerChar_of_ascii`, `Text.upperChar_of_ascii`).
A character is small if it is its own lower case and its upper case leads back to it; a text of such
characters is its own lower case (`Text.lower_of_isSmall`), and the lower case of an ASCII text
consists of them (`Text.isSmall_of_mem_lower`).
-/

namespace ElementTypings.Text

/-- A run that begins beyond a value says nothing about it. -/
theorem CaseRun.map_append {runs far : List CaseRun} {code : Nat}
    (beyond : ∀ run ∈ far, code < run.first) : map (runs ++ far) code = map runs code := by
  have none : far.find? (·.contains code) = none := by
    rw [List.find?_eq_none]
    intro run listed
    have below := beyond run listed
    simp only [contains, Bool.and_eq_true, decide_eq_true_eq, not_and]
    omega
  unfold map
  rw [List.find?_append, none, Option.or_none]

/-- Below 128 a mapping is decided by its first run, if all else in the tables begins there. -/
private theorem mapped_of_ascii {expansions : List (Nat × List Nat)} {near : CaseRun}
    {far : List CaseRun} (single : ∀ entry ∈ expansions, 128 ≤ entry.1)
    (beyond : ∀ run ∈ far, 128 ≤ run.first) {code : Nat} (ascii : code < 128) :
    (match expansions.lookup code with
      | some codes => codes.map Char.ofNat
      | none => [Char.ofNat (CaseRun.map (near :: far) code)]) =
      [Char.ofNat (CaseRun.map [near] code)] := by
  have none : expansions.lookup code = none := by
    rw [List.lookup_eq_none_iff]
    intro entry listed
    exact bne_iff_ne.mpr (Nat.ne_of_lt (Nat.lt_of_lt_of_le ascii (single entry listed)))
  have apart : near :: far = [near] ++ far := rfl
  have later : ∀ run ∈ far, code < run.first :=
    fun run listed => Nat.lt_of_lt_of_le ascii (beyond run listed)
  rw [none, apart, CaseRun.map_append later]

/-- An ASCII character is lowered to a single one. -/
theorem lowerChar_of_ascii {char : Char} (ascii : char.toNat < 128) :
    lowerChar char = [char.toLower] := by
  have letters : ∀ code < 128,
      Char.ofNat (CaseRun.map [⟨0x41, 0x5A, 1, 32⟩] code) = (Char.ofNat code).toLower := by
    decide
  have mapped := letters char.toNat ascii
  rw [Char.ofNat_toNat] at mapped
  rw [← mapped]
  have beyond : ∀ run ∈ lowerRuns.tail, 128 ≤ run.first := by decide +kernel
  exact mapped_of_ascii (by decide) beyond ascii

theorem upperChar_of_ascii {char : Char} (ascii : char.toNat < 128) :
    upperChar char = [char.toUpper] := by
  have letters : ∀ code < 128,
      Char.ofNat (CaseRun.map [⟨0x61, 0x7A, 1, -32⟩] code) = (Char.ofNat code).toUpper := by
    decide
  have mapped := letters char.toNat ascii
  rw [Char.ofNat_toNat] at mapped
  rw [← mapped]
  have beyond : ∀ run ∈ upperRuns.tail, 128 ≤ run.first := by decide +kernel
  exact mapped_of_ascii (by decide +kernel) beyond ascii

/-- The character is its own lower case, and its upper case is one character that leads back to
it. -/
def IsSmall (char : Char) : Prop :=
  lowerChar char = [char] ∧ (upperChar char).map lowerChar = [[char]]

instance (char : Char) : Decidable (IsSmall char) :=
  inferInstanceAs (Decidable (_ ∧ _))

/-- A lowered ASCII character is small. -/
theorem isSmall_toLower_of_ascii {char : Char} (ascii : char.toNat < 128) :
    IsSmall char.toLower := by
  have table : ∀ code < 128, (Char.ofNat code).toLower.toNat < 128 ∧
      (Char.ofNat code).toLower.toUpper.toNat < 128 ∧
      (Char.ofNat code).toLower.toLower = (Char.ofNat code).toLower ∧
      (Char.ofNat code).toLower.toUpper.toLower = (Char.ofNat code).toLower := by decide
  obtain ⟨small, capital, own, back⟩ := table char.toNat ascii
  rw [Char.ofNat_toNat] at small capital own back
  constructor
  · rw [lowerChar_of_ascii small, own]
  · rw [upperChar_of_ascii small, List.map_singleton, lowerChar_of_ascii capital, back]

/-- An ASCII character that lowering keeps is small. -/
theorem isSmall_of_ascii {char : Char} (ascii : char.toNat < 128) (lower : char.toLower = char) :
    IsSmall char := by
  have small := isSmall_toLower_of_ascii ascii
  rw [lower] at small
  exact small

theorem lower_of_isSmall {text : List Char} (small : ∀ char ∈ text, IsSmall char) :
    lower text = text := by
  have general : ∀ before, lowerAfter before text = text := by
    induction text with
    | nil => exact fun before => rfl
    | cons char rest ih =>
      intro before
      have own := (small char List.mem_cons_self).1
      have other : char ≠ 'Σ' := by
        rintro rfl
        revert own
        decide +kernel
      rw [lowerAfter, if_neg other, own,
        ih (fun later listed => small later (List.mem_cons_of_mem _ listed)),
        List.singleton_append]
  exact general []

/-- A lowered ASCII text is small. -/
theorem isSmall_of_mem_lower {text : List Char} (ascii : ∀ char ∈ text, char.toNat < 128)
    {char : Char} (listed : char ∈ lower text) : IsSmall char := by
  have general : ∀ before, char ∈ lowerAfter before text → IsSmall char := by
    clear listed
    induction text with
    | nil =>
      intro before listed
      cases listed
    | cons first rest ih =>
      intro before listed
      have bound := ascii first List.mem_cons_self
      have other : first ≠ 'Σ' := by
        rintro rfl
        exact absurd bound (by decide)
      rw [lowerAfter, if_neg other, lowerChar_of_ascii bound, List.singleton_append,
        List.mem_cons] at listed
      rcases listed with rfl | later
      · exact isSmall_toLower_of_ascii bound
      · exact ih (fun next listed => ascii next (List.mem_cons_of_mem _ listed)) _ later
  exact general [] listed

/-- The text begins with a character that has another upper case. -/
def StartsWithLetter : List Char → Prop
  | [] => False
  | char :: _ => upperChar char ≠ [char]

instance : DecidablePred StartsWithLetter
  | [] => inferInstanceAs (Decidable False)
  | char :: _ => inferInstanceAs (Decidable (upperChar char ≠ [char]))

/-- A text that starts with no letter is not changed by capitalizing it. -/
theorem capitalize_of_not_startsWithLetter {text : List Char} (other : ¬ StartsWithLetter text) :
    capitalize text = text := by
  cases text with
  | nil => rfl
  | cons char rest =>
    have same : upperChar char = [char] := not_not.mp other
    rw [capitalize, same, List.singleton_append]

end ElementTypings.Text
