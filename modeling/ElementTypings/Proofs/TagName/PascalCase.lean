import ElementTypings.Proofs.Text.Casing
import ElementTypings.Component
import Mathlib.Data.List.Basic

/-!
# Tags with the same Pascal case

The Pascal case of a tag loses its hyphens, and with them it can lose the words. Where a word begins
is still seen if the word begins with a letter, because that letter is then a capital; before a
digit the hyphen leaves no trace, and neither does a doubled hyphen or one at the end. The
*spelling* of a tag has a hyphen before every word that begins with a letter and before no other.

Tags have the same Pascal case exactly if they have the same spelling (`TagName.pascalCase_eq_iff`),
as far as lower and upper case undo each other, which they do in ASCII
(`Text.isSmall_of_mem_lower`). A tag in lower case all of whose words begin with a letter
is its own spelling but for the first hyphen, so its Pascal case determines it
(`TagName.IsKebab.eq_of_pascalCase_eq`).
-/

namespace ElementTypings

namespace TagName

open Text

/-- A word behind a hyphen, if the word begins with a letter. -/
def spellWord (word : List Char) : List Char :=
  if StartsWithLetter word then '-' :: word else word

/-- The tag in lower case, with a hyphen before every word that begins with a letter. -/
def spelling (tag : String) : List Char :=
  (splitOn '-' (lower tag.toList)).flatMap spellWord

/-- A character of a Pascal case as the tag has it: a capital is a small letter behind a hyphen. -/
private def unraise (char : Char) : List Char :=
  if lowerChar char = [char] then [char] else '-' :: lowerChar char

/-- Small characters are not lowered any further. -/
private theorem flatMap_unraise {text : List Char} (small : ∀ char ∈ text, IsSmall char) :
    text.flatMap unraise = text := by
  have single : ∀ char ∈ text, unraise char = [char] := fun char listed =>
    if_pos (small char listed).1
  rw [List.flatMap_congr single, List.flatMap_singleton']

/-- Lowering a capitalized word gives its spelling. -/
private theorem flatMap_unraise_capitalize {word : List Char}
    (small : ∀ char ∈ word, IsSmall char) : (capitalize word).flatMap unraise = spellWord word := by
  unfold spellWord
  by_cases letter : StartsWithLetter word
  · rw [if_pos letter]
    cases word with
    | nil => exact letter.elim
    | cons char rest =>
      -- The capital differs from its letter, so it is not its own lower case.
      obtain ⟨own, back⟩ := small char List.mem_cons_self
      obtain ⟨capital, upper, back⟩ := List.map_eq_singleton_iff.mp back
      have raised : lowerChar capital ≠ [capital] := by
        intro same
        rw [same] at back
        rw [List.singleton_inj.mp back] at upper
        exact letter upper
      have later := flatMap_unraise fun next listed => small next (List.mem_cons_of_mem _ listed)
      rw [capitalize, upper, List.singleton_append, List.flatMap_cons, later, unraise,
        if_neg raised, back]
      rfl
  · rw [if_neg letter, capitalize_of_not_startsWithLetter letter, flatMap_unraise small]

/-- Lowering the name of an element gives the spelling of its tag. -/
private theorem flatMap_unraise_pascalCase {tag : String}
    (small : ∀ char ∈ lower tag.toList, IsSmall char) :
    (pascalCase tag).toList.flatMap unraise = spelling tag := by
  unfold pascalCase spelling
  rw [String.toList_ofList, List.flatMap_assoc]
  apply List.flatMap_congr
  intro word listed
  exact flatMap_unraise_capitalize fun char inside => small char (mem_of_mem_splitOn listed inside)

/-- A spelling with the letters behind hyphens capitalized and the hyphens dropped. -/
private def raise : List Char → List Char
  | '-' :: char :: rest => upperChar char ++ raise rest
  | char :: rest => char :: raise rest
  | [] => []

private theorem raise_cons {char : Char} (other : char ≠ '-') (rest : List Char) :
    raise (char :: rest) = char :: raise rest := by
  rw [raise.eq_def]
  split
  · next same => exact absurd (List.cons.inj same).1 other
  · next same =>
    obtain ⟨rfl, rfl⟩ := List.cons.inj same
    rfl
  · next impossible => cases impossible

private theorem raise_append {word : List Char} (plain : '-' ∉ word) (rest : List Char) :
    raise (word ++ rest) = word ++ raise rest := by
  induction word with
  | nil => rfl
  | cons char later ih =>
    rw [List.mem_cons, not_or] at plain
    rw [List.cons_append, raise_cons (Ne.symm plain.1), ih plain.2, List.cons_append]

/-- Raising the spelling of a word capitalizes it. -/
private theorem raise_spellWord_append {word : List Char} (plain : '-' ∉ word)
    (rest : List Char) : raise (spellWord word ++ rest) = capitalize word ++ raise rest := by
  unfold spellWord
  by_cases letter : StartsWithLetter word
  · rw [if_pos letter]
    cases word with
    | nil => exact letter.elim
    | cons char later =>
      rw [List.mem_cons, not_or] at plain
      rw [List.cons_append, List.cons_append, raise, raise_append plain.2, capitalize,
        List.append_assoc]
  · rw [if_neg letter, raise_append plain, capitalize_of_not_startsWithLetter letter]

/-- Raising the spelling of a tag gives its name. -/
private theorem raise_spelling (tag : String) :
    raise (spelling tag) = (pascalCase tag).toList := by
  unfold spelling pascalCase
  rw [String.toList_ofList]
  have plain : ∀ word ∈ splitOn '-' (lower tag.toList), '-' ∉ word :=
    fun word listed => not_mem_of_mem_splitOn listed
  generalize splitOn '-' (lower tag.toList) = words at plain
  induction words with
  | nil => rfl
  | cons word later ih =>
    have rest := ih fun next listed => plain next (List.mem_cons_of_mem _ listed)
    rw [List.flatMap_cons, List.flatMap_cons,
      raise_spellWord_append (plain word List.mem_cons_self), rest]

/-- Tags with the same spelling have the same Pascal case. -/
theorem pascalCase_eq_of_spelling_eq {first second : String}
    (same : spelling first = spelling second) : pascalCase first = pascalCase second := by
  apply String.toList_injective
  rw [← raise_spelling, ← raise_spelling, same]

/-- Tags whose lower case is small have the same Pascal case exactly if they have the same
spelling. -/
theorem pascalCase_eq_iff {first second : String}
    (small : ∀ char ∈ lower first.toList, IsSmall char)
    (small' : ∀ char ∈ lower second.toList, IsSmall char) :
    pascalCase first = pascalCase second ↔ spelling first = spelling second := by
  constructor
  · intro same
    rw [← flatMap_unraise_pascalCase small, ← flatMap_unraise_pascalCase small', same]
  · exact pascalCase_eq_of_spelling_eq

/-- The tag is in lower case, and each of its words begins with a letter. -/
structure IsKebab (tag : String) : Prop where
  small : ∀ char ∈ tag.toList, IsSmall char
  words : ∀ word ∈ splitOn '-' tag.toList, StartsWithLetter word

namespace IsKebab

variable {tag : String}

theorem small_lower (kebab : IsKebab tag) : ∀ char ∈ lower tag.toList, IsSmall char := by
  rw [lower_of_isSmall kebab.small]
  exact kebab.small

/-- A kebab tag is spelled as it stands, behind a hyphen. -/
theorem spelling_eq (kebab : IsKebab tag) : spelling tag = '-' :: tag.toList := by
  have hyphens : ∀ word ∈ splitOn '-' tag.toList, spellWord word = '-' :: word := fun word listed =>
    if_pos (kebab.words word listed)
  unfold spelling
  rw [lower_of_isSmall kebab.small, List.flatMap_congr hyphens,
    flatMap_cons_separator '-' (splitOn_ne_nil '-' tag.toList), intercalate_splitOn]

/-- The Pascal case of such a tag determines the tag. -/
theorem eq_of_pascalCase_eq (kebab : IsKebab tag) {other : String} (kebab' : IsKebab other)
    (same : pascalCase tag = pascalCase other) : tag = other := by
  have spelled := (pascalCase_eq_iff kebab.small_lower kebab'.small_lower).mp same
  rw [kebab.spelling_eq, kebab'.spelling_eq] at spelled
  exact String.toList_injective (List.cons.inj spelled).2

end IsKebab

end TagName

end ElementTypings
