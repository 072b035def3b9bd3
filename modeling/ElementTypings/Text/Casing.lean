import ElementTypings.Text.CaseTables

/-!
# Lower and upper case

The full case mappings of a text. A character may become several, and one mapping depends on its
surroundings: a capital sigma that ends a word becomes the final form of the small letter.
-/

namespace ElementTypings.Text

/-- The lower case of a character, surroundings left aside. -/
def lowerChar (char : Char) : List Char :=
  match lowerExpansions.lookup char.toNat with
  | some codes => codes.map Char.ofNat
  | none => [Char.ofNat (CaseRun.map lowerRuns char.toNat)]

/-- The upper case of a character. -/
def upperChar (char : Char) : List Char :=
  match upperExpansions.lookup char.toNat with
  | some codes => codes.map Char.ofNat
  | none => [Char.ofNat (CaseRun.map upperRuns char.toNat)]

/-- Whether the first character that case does not ignore is a cased one. -/
def startsCased (text : List Char) : Bool :=
  match text.dropWhile fun char => CodeRanges.contains caseIgnorableRanges char.toNat with
  | [] => false
  | char :: _ => CodeRanges.contains casedRanges char.toNat

/-- The small form of a capital sigma. It is the final form after a cased character and before
none; `before` is the text to its left, read backwards. -/
def lowerSigma (before after : List Char) : Char :=
  if startsCased before && !startsCased after then 'ς' else 'σ'

/-- The lower case of a text that follows `before`, which is read backwards. -/
def lowerAfter : (before text : List Char) → List Char
  | _, [] => []
  | before, char :: rest =>
    (if char = 'Σ' then [lowerSigma before rest] else lowerChar char) ++
      lowerAfter (char :: before) rest

/-- The lower case of a text. -/
def lower (text : List Char) : List Char :=
  lowerAfter [] text

/-- The text with its first character in upper case. -/
def capitalize : List Char → List Char
  | [] => []
  | char :: rest => upperChar char ++ rest

end ElementTypings.Text
