/-!
# Splitting a text at a separator

`splitOn` cuts a text at every occurrence of one character and keeps the empty pieces, so that
joining the pieces with the same character gives the text back (`intercalate_splitOn`), and no
piece holds the separator (`not_mem_of_mem_splitOn`). Pieces that do not hold it come back when they
were joined with it (`splitOn_intercalate`).
-/

namespace ElementTypings.Text

/-- The pieces of a text between the occurrences of a separator, empty pieces included. -/
def splitOn (separator : Char) : List Char → List (List Char)
  | [] => [[]]
  | char :: rest =>
    if char = separator then [] :: splitOn separator rest
    else
      match splitOn separator rest with
      | [] => [[char]]
      | piece :: pieces => (char :: piece) :: pieces

theorem splitOn_ne_nil (separator : Char) (text : List Char) : splitOn separator text ≠ [] := by
  cases text with
  | nil => simp [splitOn]
  | cons char rest =>
    simp only [splitOn]
    split
    · simp
    · split <;> simp

/-- Joining the pieces with the separator gives the text back. -/
theorem intercalate_splitOn (separator : Char) (text : List Char) :
    List.intercalate [separator] (splitOn separator text) = text := by
  induction text with
  | nil => simp [splitOn, List.intercalate]
  | cons char rest ih =>
    have nonempty := splitOn_ne_nil separator rest
    simp only [splitOn]
    cases pieces : splitOn separator rest with
    | nil => exact absurd pieces nonempty
    | cons piece more =>
      rw [pieces] at ih
      split
      · next same =>
        subst same
        simp only [List.intercalate, List.intersperse, List.flatten_cons, List.nil_append] at ih ⊢
        simp [ih]
      · cases more with
        | nil => simpa [List.intercalate] using ih
        | cons next later =>
          simp only [List.intercalate, List.intersperse, List.flatten_cons,
            List.cons_append] at ih ⊢
          rw [ih]

/-- No piece holds the separator. -/
theorem not_mem_of_mem_splitOn {separator : Char} {text piece : List Char}
    (member : piece ∈ splitOn separator text) : separator ∉ piece := by
  induction text generalizing piece with
  | nil => simp_all [splitOn]
  | cons char rest ih =>
    simp only [splitOn] at member
    split at member
    · rcases List.mem_cons.mp member with rfl | later
      · simp
      · exact ih later
    · next different =>
      split at member
      · simp only [List.mem_cons, List.not_mem_nil, or_false] at member
        subst member
        simpa using fun same => different same.symm
      · next first more pieces =>
        rcases List.mem_cons.mp member with rfl | later
        · have absent : separator ∉ first := ih (by simp [pieces])
          simpa [absent] using fun same => different same.symm
        · exact ih (by simp [pieces, later])

/-- A text without the separator is its only piece. -/
theorem splitOn_of_not_mem {separator : Char} {text : List Char} (absent : separator ∉ text) :
    splitOn separator text = [text] := by
  induction text with
  | nil => rfl
  | cons char rest ih =>
    rw [List.mem_cons, not_or] at absent
    rw [splitOn, if_neg (Ne.symm absent.1), ih absent.2]

/-- A separator ends a piece, whatever stands on its two sides. -/
theorem splitOn_append_cons (separator : Char) (before after : List Char) :
    splitOn separator (before ++ separator :: after) =
      splitOn separator before ++ splitOn separator after := by
  induction before with
  | nil => simp [splitOn]
  | cons char rest ih =>
    rw [List.cons_append, splitOn, splitOn, ih]
    split
    · rfl
    · have nonempty := splitOn_ne_nil separator rest
      cases pieces : splitOn separator rest with
      | nil => exact absurd pieces nonempty
      | cons piece more => rfl

/-- Pieces that do not hold the separator come back when they were joined with it. -/
theorem splitOn_intercalate {separator : Char} {pieces : List (List Char)} (some : pieces ≠ [])
    (absent : ∀ piece ∈ pieces, separator ∉ piece) :
    splitOn separator (List.intercalate [separator] pieces) = pieces := by
  induction pieces with
  | nil => exact absurd rfl some
  | cons piece more ih =>
    have first := splitOn_of_not_mem (absent piece List.mem_cons_self)
    cases more with
    | nil => simpa [List.intercalate] using first
    | cons next later =>
      rw [List.intercalate_cons_cons, List.append_assoc, List.singleton_append,
        splitOn_append_cons, first,
        ih (List.cons_ne_nil _ _) fun other member => absent other (List.mem_cons_of_mem _ member)]
      rfl

/-- Pieces can be told from the text that joins them, but for one empty piece from none. -/
theorem intercalate_inj {separator : Char} {first second : List (List Char)}
    (absent : ∀ piece ∈ first, separator ∉ piece) (absent' : ∀ piece ∈ second, separator ∉ piece) :
    List.intercalate [separator] first = List.intercalate [separator] second ↔
      first = second ∨ (first = [] ∧ second = [[]]) ∨ (first = [[]] ∧ second = []) := by
  constructor
  · intro same
    have cut := congrArg (splitOn separator) same
    by_cases none : first = []
    · subst none
      by_cases none' : second = []
      · exact Or.inl none'.symm
      · rw [splitOn_intercalate none' absent'] at cut
        exact Or.inr (Or.inl ⟨rfl, cut.symm⟩)
    · rw [splitOn_intercalate none absent] at cut
      by_cases none' : second = []
      · subst none'
        exact Or.inr (Or.inr ⟨cut, rfl⟩)
      · rw [splitOn_intercalate none' absent'] at cut
        exact Or.inl cut
  · rintro (rfl | ⟨rfl, rfl⟩ | ⟨rfl, rfl⟩)
    · rfl
    · rfl
    · rfl

/-- A separator stands between the first pieces and the later ones. -/
theorem intercalate_append (separator : Char) {first later : List (List Char)}
    (some : first ≠ []) (more : later ≠ []) :
    List.intercalate [separator] (first ++ later) =
      List.intercalate [separator] first ++ separator :: List.intercalate [separator] later := by
  induction first with
  | nil => exact absurd rfl some
  | cons piece rest ih =>
    cases rest with
    | nil => simp [List.intercalate_cons_of_ne_nil more]
    | cons next others =>
      have joined := ih (List.cons_ne_nil _ _)
      simp only [List.cons_append, List.intercalate_cons_cons, List.append_assoc] at joined ⊢
      rw [joined]

/-- The last piece stands behind the last separator. -/
theorem intercalate_append_singleton (separator : Char) {pieces : List (List Char)}
    (some : pieces ≠ []) (last : List Char) :
    List.intercalate [separator] (pieces ++ [last]) =
      List.intercalate [separator] pieces ++ separator :: last := by
  rw [intercalate_append separator some (List.cons_ne_nil last []), List.intercalate_singleton]

/-- Pieces that each stand behind a separator are joined by it. -/
theorem flatMap_cons_separator (separator : Char) {pieces : List (List Char)}
    (some : pieces ≠ []) :
    pieces.flatMap (separator :: ·) = separator :: List.intercalate [separator] pieces := by
  induction pieces with
  | nil => exact absurd rfl some
  | cons piece more ih =>
    cases more with
    | nil => simp [List.intercalate]
    | cons next later =>
      rw [List.flatMap_cons, ih (List.cons_ne_nil _ _), List.intercalate_cons_cons,
        List.append_assoc]
      rfl

theorem mem_intercalate {separator char : Char} {pieces : List (List Char)} :
    char ∈ List.intercalate [separator] pieces →
      char = separator ∨ ∃ piece ∈ pieces, char ∈ piece := by
  induction pieces with
  | nil => simp [List.intercalate]
  | cons piece more ih =>
    cases more with
    | nil =>
      intro member
      exact Or.inr ⟨piece, List.mem_cons_self, by simpa [List.intercalate] using member⟩
    | cons next later =>
      rw [List.intercalate_cons_cons, List.mem_append, List.mem_append, List.mem_singleton]
      rintro ((member | same) | member)
      · exact Or.inr ⟨piece, List.mem_cons_self, member⟩
      · exact Or.inl same
      · rcases ih member with same | ⟨other, listed, inside⟩
        · exact Or.inl same
        · exact Or.inr ⟨other, List.mem_cons_of_mem _ listed, inside⟩

theorem mem_intercalate_of_mem {separator char : Char} {pieces : List (List Char)}
    {piece : List Char} (listed : piece ∈ pieces) (member : char ∈ piece) :
    char ∈ List.intercalate [separator] pieces := by
  induction pieces with
  | nil => cases listed
  | cons first more ih =>
    cases more with
    | nil =>
      obtain rfl := List.mem_singleton.mp listed
      simpa [List.intercalate] using member
    | cons next later =>
      rw [List.intercalate_cons_cons, List.mem_append, List.mem_append]
      rcases List.mem_cons.mp listed with rfl | listed
      · exact Or.inl (Or.inl member)
      · exact Or.inr (ih listed)

/-- The pieces hold no characters but those of the text. -/
theorem mem_of_mem_splitOn {separator char : Char} {text piece : List Char}
    (listed : piece ∈ splitOn separator text) (member : char ∈ piece) : char ∈ text := by
  rw [← intercalate_splitOn separator text]
  exact mem_intercalate_of_mem listed member

end ElementTypings.Text
