import ElementTypings.Proofs.TypeText.Scanning

/-!
# The scanner, piece by piece

What the scanner does to a list of pieces is put together from what it does to each of them
(`Scans.append`), where every piece is followed by the text of the later ones. How the text goes on
matters in two ways: a word must not run on into it, and a word that may be a key is one if an
ascription follows.
-/

namespace ElementTypings.TypeText

/-- Whether the scanner takes the name of a parameter for a reference. It takes a parameter behind
a comma for a property, since the innermost braces are those of the object type. -/
def ParameterForm.isRead (form : ParameterForm) : Bool :=
  !form.spread && (form.isFirst || !form.ascription.isDirect)

/-- Whether the scanner takes a word for a reference. -/
def Role.isRead : Role → Bool
  | .reference => true
  | .path => false
  | .member form => !form.isKey
  | .parameter form => form.isRead

/-- What the scanner writes for the words of a type expression. It knows no keywords. -/
def Bindings.scanned (bindings : Bindings) : Naming :=
  { keyword := fun keyword => bindings.nameOf keyword.word.text
    word := fun role name => if role.isRead then bindings.nameOf name.text else name.text }

variable {bindings : Bindings} {nesting : List Nesting} {key : Bool} {rest : List Char}
  {before between after : Context} {piece : Piece} {pieces others : List Piece}

/-! ## How a text goes on -/

/-- How a text may go on behind a type: not with the rest of an identifier, nor with an annotation
if the type may be taken for a key. -/
structure Stops (key : Bool) (rest : List Char) : Prop where
  apart : IsApart rest
  unannotated : key = true → Lexeme.startsAnnotation rest = false

/-- Blanks do not continue a word, if what follows them does not. -/
theorem isApart_blanks (blanks : Blanks) (apart : IsApart rest) :
    IsApart (blanks.text ++ rest) := by
  obtain ⟨text, blank⟩ := blanks
  cases text with
  | nil => exact apart
  | cons char text =>
    exact isApart_cons (isIdentifierContinue_of_isBlank (Bool.and_eq_true_iff.mp blank).1)

theorem isApart_colon (colon : Colon) : IsApart (colon.text ++ rest) := by
  rw [Colon.text, List.append_assoc]
  exact isApart_blanks colon.before (isApart_cons (by decide))

theorem isApart_ascription (ascription : Ascription) : IsApart (ascription.text ++ rest) := by
  obtain ⟨question, colon⟩ := ascription
  cases question with
  | none => exact isApart_colon colon
  | some before =>
    rw [Ascription.text, List.append_assoc]
    exact isApart_blanks before (isApart_cons (by decide))

theorem isApart_separator (separator : Separator) : IsApart (separator.text ++ rest) := by
  rw [Separator.text, List.append_assoc]
  refine isApart_blanks separator.before (isApart_cons ?_)
  cases separator.mark <;> decide

/-- The closing of an object type does not continue a word. -/
theorem isApart_closing (closing : Closing) (apart : IsApart rest) :
    IsApart (closing.text ++ rest) := by
  cases closing with
  | blanks inside => exact isApart_blanks inside apart
  | separator last => exact isApart_separator last

theorem startsAnnotation_blanks (blanks : Blanks) (rest : List Char) :
    Lexeme.startsAnnotation (blanks.text ++ rest) = Lexeme.startsAnnotation rest := by
  have blank := List.all_eq_true.mp blanks.blank
  rw [Lexeme.startsAnnotation, Text.dropBlanks, List.dropWhile_append_of_pos blank]
  rfl

/-- The annotation of a property is found unless white space parts its question mark from its
colon. -/
theorem startsAnnotation_ascription (ascription : Ascription) (rest : List Char) :
    Lexeme.startsAnnotation (ascription.text ++ rest) = ascription.isDirect := by
  obtain ⟨question, ⟨before, inside⟩⟩ := ascription
  cases question with
  | none =>
    simp only [Ascription.text, Colon.text, List.append_assoc, startsAnnotation_blanks]
    rfl
  | some blanks =>
    simp only [Ascription.text, Colon.text, List.append_assoc, startsAnnotation_blanks]
    obtain ⟨text, blank⟩ := before
    cases text with
    | nil => rfl
    | cons char text =>
      have apart : char ≠ ':' := by
        rintro rfl
        exact absurd (Bool.and_eq_true_iff.mp blank).1 (by decide)
      have question : Text.isBlank '?' = false := by decide
      simp [Lexeme.startsAnnotation, Text.dropBlanks, question, apart, Ascription.isDirect]

/-- A word starts no annotation. -/
theorem startsAnnotation_word (word : Word) (rest : List Char) :
    Lexeme.startsAnnotation (word.text ++ rest) = false := by
  have solid : Text.isBlank word.first = false := by
    by_contra blank
    have apart := isIdentifierContinue_of_isBlank (Bool.of_not_eq_false blank)
    rw [isIdentifierContinue_of_isIdentifierStart word.starts] at apart
    exact absurd apart (by decide)
  have apart : word.first ≠ ':' ∧ word.first ≠ '?' :=
    ⟨fun same => absurd (same ▸ word.starts) (by decide),
      fun same => absurd (same ▸ word.starts) (by decide)⟩
  simp [Lexeme.startsAnnotation, Text.dropBlanks, Word.text, solid, apart]

/-- A mark that starts no annotation stops a word, as a key and as a reference. -/
theorem stops_mark {char : Char} (mark : isIdentifierContinue char = false)
    (unannotated : Lexeme.startsAnnotation (char :: rest) = false) : Stops key (char :: rest) :=
  ⟨isApart_cons mark, fun _ => unannotated⟩

/-- Where no key is expected, whatever does not continue a word stops it. -/
theorem stops_of_apart (apart : IsApart rest) : Stops false rest :=
  ⟨apart, fun impossible => absurd impossible Bool.false_ne_true⟩

/-! ## Pieces, one after the other -/

/-- The scanner comes from one context through the pieces to another, if the rest of the text
follows them. -/
def Scans (bindings : Bindings) (before : Context) (pieces : List Piece) (after : Context)
    (rest : List Char) : Prop :=
  scan bindings before (write .own pieces ++ rest) =
    write bindings.scanned pieces ++ scan bindings after rest

theorem write_append (naming : Naming) (pieces others : List Piece) (rest : List Char) :
    write naming (pieces ++ others) ++ rest =
      write naming pieces ++ (write naming others ++ rest) := by
  rw [write, List.flatMap_append, List.append_assoc]
  rfl

theorem write_cons (naming : Naming) (piece : Piece) (others : List Piece) (rest : List Char) :
    write naming (piece :: others) ++ rest =
      piece.text naming ++ (write naming others ++ rest) := by
  rw [write, List.flatMap_cons, List.append_assoc]
  rfl

/-- Behind the colon of an annotation, no key may stand. -/
private theorem scan_colon (readable : IsReadable nesting) (colon : Colon) :
    scan bindings (place nesting key) (colon.text ++ rest) =
      colon.text ++ scan bindings (place nesting false) rest := by
  rw [Colon.text, List.append_assoc, List.append_assoc, scan_blank readable colon.before.blank,
    List.cons_append, scan_plainMark readable (by decide), scan_blank readable colon.after.blank]
  rfl

namespace Scans

theorem nil : Scans bindings before [] before rest := rfl

/-- Pieces that are scanned one after the other are scanned together. -/
theorem append (first : Scans bindings before pieces between (write .own others ++ rest))
    (second : Scans bindings between others after rest) :
    Scans bindings before (pieces ++ others) after rest := by
  unfold Scans at *
  rw [write_append, write_append, first, second]

/-- A piece and those behind it are scanned together. -/
theorem cons (first : Scans bindings before [piece] between (write .own others ++ rest))
    (second : Scans bindings between others after rest) :
    Scans bindings before (piece :: others) after rest :=
  first.append second

/-- A text that the scan passes unchanged is a verbatim piece. -/
theorem verbatim {text : List Char}
    (passed : scan bindings before (text ++ rest) = text ++ scan bindings after rest) :
    Scans bindings before [.verbatim text] after rest := by
  simpa only [Scans, write, List.flatMap_cons, List.flatMap_nil, List.append_nil, Piece.text]
    using passed

/-- Plain marks are passed, and they decide whether a key is expected behind them. -/
theorem marks {text : List Char} {left : Bool} (readable : IsReadable nesting)
    (plain : text.all isPlainMark) (reached : text.foldl (keyAfter nesting) key = left) :
    Scans bindings (place nesting key) [.verbatim text] (place nesting left) rest :=
  verbatim (reached ▸ scan_plain readable plain)

/-- Blanks are passed, and a key is expected as before. -/
theorem blanks (readable : IsReadable nesting) (blanks : Blanks) :
    Scans bindings (place nesting key) [.verbatim blanks.text] (place nesting key) rest :=
  verbatim (scan_blank readable blanks.blank)

/-- Behind a colon no key is expected. -/
theorem colon (readable : IsReadable nesting) (colon : Colon) :
    Scans bindings (place nesting key) [.verbatim colon.text] (place nesting false) rest :=
  verbatim (scan_colon readable colon)

/-- Behind a type ascription no key is expected. -/
theorem ascription (readable : IsReadable nesting) (ascription : Ascription) :
    Scans bindings (place nesting key) [.verbatim ascription.text] (place nesting false) rest := by
  obtain ⟨question, colon⟩ := ascription
  cases question with
  | none => exact .colon readable colon
  | some before =>
    have text : Ascription.text ⟨some before, colon⟩ ++ rest =
        before.text ++ '?' :: (colon.text ++ rest) := by
      rw [Ascription.text, List.append_assoc, List.cons_append]
    refine verbatim ?_
    rw [text, scan_blank readable before.blank, scan_plainMark readable (by decide),
      scan_colon readable, ← List.cons_append, ← List.append_assoc]
    rfl

/-- A word whose role is what the scanner takes it for. -/
theorem word {role : Role} {name : Word} (unquoted : before.quote = none)
    (readable : IsReadable before.nesting) (apart : IsApart rest)
    (taken : role.isRead =
      !(before.afterDot || (before.keyPosition && Lexeme.startsAnnotation rest))) :
    Scans bindings before [.word role name]
      (place before.nesting (before.keyPosition && name.text == "readonly".toList)) rest := by
  simp only [Scans, write, List.flatMap_cons, List.flatMap_nil, List.append_nil, Piece.text]
  simp only [Bindings.scanned, taken, Naming.own, scan_word before unquoted readable name apart]
  cases before.afterDot || (before.keyPosition && Lexeme.startsAnnotation rest) <;> rfl

/-- A keyword that is no key is passed, and behind a modifier a key is still expected. -/
theorem keyword (readable : IsReadable nesting) (keyword : Keyword) (apart : IsApart rest)
    (unannotated : Lexeme.startsAnnotation rest = false) :
    Scans bindings (place nesting key) [.keyword keyword]
      (place nesting (key && keyword.word.text == "readonly".toList)) rest := by
  simp only [Scans, write, List.flatMap_cons, List.flatMap_nil, List.append_nil, Piece.text]
  simp only [Bindings.scanned, Naming.own]
  rw [scan_word _ rfl readable keyword.word apart, unannotated, Bool.and_false]
  rfl

theorem dot (unquoted : before.quote = none) (readable : IsReadable before.nesting) :
    Scans bindings before [.verbatim ['.']] (dotted before.nesting) rest :=
  verbatim (scan_dot unquoted readable)

/-- Behind the dots of a spread a name is not looked up either. -/
theorem spread (readable : IsReadable nesting) :
    Scans bindings (place nesting key) [.verbatim ['.', '.', '.']] (dotted nesting) rest := by
  refine verbatim ?_
  rw [List.cons_append, scan_dot rfl readable, List.cons_append, scan_dot rfl readable,
    List.cons_append, scan_dot rfl readable]
  rfl

/-- Behind `readonly`, a key may stand if one may stand before it. -/
theorem readonly (readable : IsReadable nesting)
    (unannotated : Lexeme.startsAnnotation rest = false) :
    Scans bindings (place nesting key) [.keyword .readonly, .verbatim [' ']] (place nesting key)
      rest := by
  have same : (key && Keyword.readonly.word.text == "readonly".toList) = key := by
    cases key <;> decide
  have read : Scans bindings (place nesting key) [.keyword .readonly]
      (place nesting (key && Keyword.readonly.word.text == "readonly".toList)) (' ' :: rest) :=
    keyword readable .readonly (isApart_cons (by decide)) unannotated
  rw [same] at read
  exact .cons read (.marks readable (by decide) rfl)

/-- A string literal is passed whatever it contains. -/
theorem literal (readable : IsReadable nesting) (string : StringLiteral) :
    Scans bindings (place nesting key) [.verbatim string.written] (place nesting false) rest :=
  verbatim (scan_literal rfl readable string)

end Scans

/-- The scanner comes through the pieces without a change of nesting, and a key may stand behind
them only if it may stand before them. -/
def Reads (bindings : Bindings) (nesting : List Nesting) (key : Bool) (pieces : List Piece)
    (rest : List Char) : Prop :=
  ∃ left, (left = true → key = true) ∧
    Scans bindings (place nesting key) pieces (place nesting left) rest

namespace Reads

theorem nil : Reads bindings nesting key [] rest :=
  ⟨key, id, .nil⟩

/-- Pieces that are read one after the other are read together. -/
theorem append (first : Reads bindings nesting key pieces (write .own others ++ rest))
    (second : ∀ key, Reads bindings nesting key others rest) :
    Reads bindings nesting key (pieces ++ others) rest := by
  obtain ⟨between, kept, first⟩ := first
  obtain ⟨left, keptAgain, second⟩ := second between
  exact ⟨left, kept ∘ keptAgain, first.append second⟩

/-- A piece and those behind it are read together. -/
theorem cons (first : Reads bindings nesting key [piece] (write .own others ++ rest))
    (second : ∀ key, Reads bindings nesting key others rest) :
    Reads bindings nesting key (piece :: others) rest :=
  first.append second

theorem space (readable : IsReadable nesting) :
    Reads bindings nesting key [.verbatim [' ']] rest :=
  ⟨key, id, .marks readable (by decide) rfl⟩

/-- A word is read in its role, where what follows stops it. -/
theorem word {role : Role} (readable : IsReadable nesting) (isRead : role.isRead = true)
    (name : Word) (stops : Stops key rest) :
    Reads bindings nesting key [.word role name] rest := by
  refine ⟨_, ?_, .word rfl readable stops.apart ?_⟩
  · exact fun both => (Bool.and_eq_true_iff.mp both).1
  · cases key with
    | false => exact isRead
    | true => simp [place, isRead, stops.unannotated rfl]

/-- A keyword that is no key is read as it is written. -/
theorem keyword (readable : IsReadable nesting) (keyword : Keyword) (apart : IsApart rest)
    (unannotated : Lexeme.startsAnnotation rest = false) :
    Reads bindings nesting key [.keyword keyword] rest :=
  ⟨_, fun both => (Bool.and_eq_true_iff.mp both).1, .keyword readable keyword apart unannotated⟩

/-- Where no key may stand, none may stand behind the pieces. -/
theorem scans (read : Reads bindings nesting false pieces rest) :
    Scans bindings (place nesting false) pieces (place nesting false) rest := by
  obtain ⟨left, kept, scanned⟩ := read
  cases left with
  | false => exact scanned
  | true => exact absurd (kept rfl) Bool.false_ne_true

end Reads

end ElementTypings.TypeText
