import ElementTypings.Proofs.TypeText.Expression
import ElementTypings.Proofs.TypeText.Renaming

/-!
# The scanner, token by token

What the scanner writes for each kind of token of a type text, and the context that it reaches
behind the token: plain marks and white space, braces, words, quoted strings and the literal parts
of templates. A word that may be a key is one exactly if the text behind it starts an annotation.
-/

namespace ElementTypings.TypeText

/-- What the scanner writes for a text that it reads in the given context. -/
def scan (bindings : Bindings) (context : Context) (text : List Char) : List Char :=
  (Lexeme.all context text).flatMap (Lexeme.renamed bindings)

theorem rename_eq_scan (text : String) (bindings : Bindings) :
    rename text bindings = String.ofList (scan bindings Context.start text.toList) :=
  rename_eq text bindings

/-- A place in a text where a type may stand, or a name before a type. -/
def place (nesting : List Nesting) (key : Bool) : Context :=
  { nesting, quote := none, afterDot := false, keyPosition := key }

/-- A place right after a dot. -/
def dotted (nesting : List Nesting) : Context :=
  { nesting, quote := none, afterDot := true, keyPosition := false }

/-- Whether identifiers are read inside the nesting, which is so everywhere but in the literal
part of a template. -/
def IsReadable (nesting : List Nesting) : Prop :=
  nesting.head? ≠ some .template

theorem isReadable_braces (outer : List Nesting) : IsReadable (.braces :: outer) := nofun

theorem isReadable_placeholder (outer : List Nesting) : IsReadable (.placeholder :: outer) := nofun

variable {bindings : Bindings} {nesting : List Nesting} {key : Bool} {text rest : List Char}

/-! ## Steps -/

@[simp]
theorem scan_nil (context : Context) : scan bindings context [] = [] := by
  simp [scan, Lexeme.all]

/-- A scan writes its first lexeme, renamed, and goes on behind it. -/
theorem scan_cons (context : Context) (char : Char) (rest : List Char) :
    scan bindings context (char :: rest) =
      (Lexeme.Step.next context char rest).lexeme.renamed bindings ++
        scan bindings (Lexeme.Step.next context char rest).context
          (Lexeme.Step.next context char rest).rest := by
  rw [scan, Lexeme.all, List.flatMap_cons]
  rfl

/-- A piece that is taken as it is. -/
theorem scan_verbatim {context reached : Context} {char : Char} {taken after : List Char}
    (step : Lexeme.Step.next context char rest = ⟨.verbatim taken, reached, after⟩) :
    scan bindings context (char :: rest) = taken ++ scan bindings reached after := by
  rw [scan_cons, step]
  rfl

/-- Outside literals a character that starts no word is a mark. -/
theorem next_mark {context : Context} {char : Char} (unquoted : context.quote = none)
    (readable : IsReadable context.nesting) (mark : isIdentifierStart char = false)
    (rest : List Char) :
    Lexeme.Step.next context char rest = ⟨.verbatim [char], context.afterMark char, rest⟩ := by
  simp [Lexeme.Step.next, unquoted, if_neg readable, mark]

theorem scan_mark {context : Context} {char : Char} (unquoted : context.quote = none)
    (readable : IsReadable context.nesting) (mark : isIdentifierStart char = false) :
    scan bindings context (char :: rest) = char :: scan bindings (context.afterMark char) rest :=
  scan_verbatim (next_mark unquoted readable mark rest)

/-! ## Marks and white space -/

/-- What starts a word can continue one. -/
theorem isIdentifierContinue_of_isIdentifierStart {char : Char}
    (starts : isIdentifierStart char) : isIdentifierContinue char := by
  simp only [isIdentifierStart, isIdentifierContinue, Bool.or_eq_true] at starts ⊢
  tauto

theorem isIdentifierStart_eq_false {char : Char} (mark : isIdentifierContinue char = false) :
    isIdentifierStart char = false := by
  by_contra starts
  rw [isIdentifierContinue_of_isIdentifierStart (Bool.of_not_eq_false starts)] at mark
  exact Bool.false_ne_true mark.symm

/-- White space is no part of an identifier. -/
theorem isIdentifierContinue_of_isBlank {char : Char} (blank : Text.isBlank char) :
    isIdentifierContinue char = false := by
  have table : ∀ range ∈ Text.blankRanges, ∀ code ∈ List.range' range.1 (range.2 + 1 - range.1),
      (Text.alphabeticRanges.contains code || Text.numericRanges.contains code ||
        code == '_'.toNat || code == '$'.toNat) = false := by
    decide +kernel
  obtain ⟨range, member, least, greatest⟩ :=
    (Text.CodeRanges.contains_iff (by decide)).mp blank
  have outside := table range member char.toNat (by simp; omega)
  simp only [Bool.or_eq_false_iff, beq_eq_false_iff_ne] at outside
  obtain ⟨⟨⟨letter, numeral⟩, underscore⟩, dollar⟩ := outside
  have differs {other : Char} (codes : char.toNat ≠ other.toNat) : (char == other) = false :=
    beq_eq_false_iff_ne.mpr fun same => codes (congrArg Char.toNat same)
  simp [isIdentifierContinue, Text.isAlphabetic, Text.isNumeric, letter, numeral,
    differs underscore, differs dollar]

/-- A character that changes nothing but whether a key may follow. -/
def isPlainMark (char : Char) : Bool :=
  !isIdentifierContinue char && char ∉ ['\'', '"', '\x60', '{', '}', '.']

/-- Whether a key may follow a plain mark. -/
def keyAfter (nesting : List Nesting) (key : Bool) (char : Char) : Bool :=
  if Text.isBlank char then key
  else (char == ';' || char == ',') && nesting.head? == some .braces

/-- A plain mark keeps the nesting and decides whether a key is expected. -/
private theorem afterMark_of_isPlainMark {char : Char} (plain : isPlainMark char) :
    (place nesting key).afterMark char = place nesting (keyAfter nesting key char) := by
  simp only [isPlainMark, Bool.and_eq_true, decide_eq_true_eq, List.mem_cons, List.not_mem_nil,
    or_false, not_or] at plain
  obtain ⟨-, single, double, backtick, opening, closing, dot⟩ := plain
  -- Only quotes and braces open or close anything.
  unfold Context.afterMark keyAfter place
  by_cases blank : Text.isBlank char
  · simp [blank]
  · split <;> simp_all
    split <;> simp_all

/-- A plain mark is written as it stands, and the nesting is kept. -/
theorem scan_plainMark {char : Char} (readable : IsReadable nesting) (plain : isPlainMark char) :
    scan bindings (place nesting key) (char :: rest) =
      char :: scan bindings (place nesting (keyAfter nesting key char)) rest := by
  have mark : isIdentifierContinue char = false := by
    simpa using (Bool.and_eq_true_iff.mp plain).1
  rw [scan_mark rfl readable (isIdentifierStart_eq_false mark), afterMark_of_isPlainMark plain]

/-- The scanner passes by plain marks. -/
theorem scan_plain (readable : IsReadable nesting) (plain : text.all isPlainMark) :
    scan bindings (place nesting key) (text ++ rest) =
      text ++ scan bindings (place nesting (text.foldl (keyAfter nesting) key)) rest := by
  induction text generalizing key with
  | nil => rfl
  | cons char text ih =>
    obtain ⟨first, plain⟩ := Bool.and_eq_true_iff.mp plain
    rw [List.cons_append, scan_plainMark readable first, ih plain]
    rfl

/-- White space changes nothing. -/
theorem afterMark_of_isBlank {context : Context} {char : Char} (blank : Text.isBlank char) :
    context.afterMark char = context := by
  have other : char ∉ ['\'', '"', '\x60', '{', '}'] := by
    intro member
    have solid : ['\'', '"', '\x60', '{', '}'].all (fun mark => !Text.isBlank mark) := by
      decide
    have unblank := List.all_eq_true.mp solid char member
    simp [blank] at unblank
  simp only [List.mem_cons, List.not_mem_nil, or_false, not_or] at other
  obtain ⟨single, double, backtick, opening, closing⟩ := other
  unfold Context.afterMark
  rw [if_pos blank]
  split
  · exact absurd rfl single
  · exact absurd rfl double
  · exact absurd rfl backtick
  · exact absurd rfl opening
  · exact absurd rfl closing
  · rfl

/-- The scanner passes by white space and knows afterwards what it knew before. -/
theorem scan_blanks {context : Context} (unquoted : context.quote = none)
    (readable : IsReadable context.nesting) (blank : text.all Text.isBlank) :
    scan bindings context (text ++ rest) = text ++ scan bindings context rest := by
  induction text with
  | nil => rfl
  | cons char text ih =>
    obtain ⟨first, blank⟩ := Bool.and_eq_true_iff.mp blank
    have mark := isIdentifierStart_eq_false (isIdentifierContinue_of_isBlank first)
    rw [List.cons_append, scan_mark unquoted readable mark, afterMark_of_isBlank first, ih blank]
    rfl

/-- Blanks are written as they stand and change no context. -/
theorem scan_blank (readable : IsReadable nesting) (blank : text.all Text.isBlank) :
    scan bindings (place nesting key) (text ++ rest) =
      text ++ scan bindings (place nesting key) rest :=
  scan_blanks rfl readable blank

/-! ## Dots and braces -/

/-- A dot is written as it stands, and the name behind it is not looked up. -/
theorem scan_dot {context : Context} (unquoted : context.quote = none)
    (readable : IsReadable context.nesting) :
    scan bindings context ('.' :: rest) = '.' :: scan bindings (dotted context.nesting) rest := by
  rw [scan_mark unquoted readable (by decide)]
  obtain ⟨nesting, quote, afterDot, keyPosition⟩ := context
  cases unquoted
  rfl

/-- An opening brace nests, and a key is expected behind it. -/
theorem scan_openingBrace (readable : IsReadable nesting) :
    scan bindings (place nesting key) ('{' :: rest) =
      '{' :: scan bindings (place (.braces :: nesting) true) rest :=
  scan_mark rfl readable (by decide)

theorem scan_closingBrace :
    scan bindings (place (.braces :: nesting) key) ('}' :: rest) =
      '}' :: scan bindings (place nesting false) rest :=
  scan_mark rfl nofun (by decide)

/-! ## Words -/

/-- No identifier continues into the text. -/
def IsApart (text : List Char) : Prop :=
  ∀ char ∈ text.head?, isIdentifierContinue char = false

theorem isApart_cons {char : Char} (mark : isIdentifierContinue char = false) :
    IsApart (char :: rest) := by
  intro first same
  cases same
  exact mark

/-- A word is taken up to what does not continue it. -/
theorem Word.takeWhile_append (word : Word) (apart : IsApart rest) :
    (word.rest ++ rest).takeWhile isIdentifierContinue = word.rest := by
  rw [List.takeWhile_append_of_pos (List.all_eq_true.mp word.continues)]
  cases rest with
  | nil => exact List.append_nil _
  | cons char rest =>
    rw [List.takeWhile_cons_of_neg (by simp [apart char rfl]), List.append_nil]

/-- Behind a word stands what does not continue it. -/
theorem Word.dropWhile_append (word : Word) (apart : IsApart rest) :
    (word.rest ++ rest).dropWhile isIdentifierContinue = rest := by
  rw [List.dropWhile_append_of_pos (List.all_eq_true.mp word.continues)]
  cases rest with
  | nil => rfl
  | cons char rest => exact List.dropWhile_cons_of_neg (by simp [apart char rfl])

/-- The scanner takes a word as a whole. -/
theorem next_word (context : Context) (unquoted : context.quote = none)
    (readable : IsReadable context.nesting) (word : Word) (apart : IsApart rest) :
    Lexeme.Step.next context word.first (word.rest ++ rest) =
      { lexeme :=
          { text := word.text
            isReference := !context.afterDot &&
              !(context.keyPosition && Lexeme.startsAnnotation rest) }
        context := place context.nesting (context.keyPosition && word.text == "readonly".toList)
        rest } := by
  have step : Lexeme.Step.next context word.first (word.rest ++ rest) =
      Lexeme.Step.identifier context word.first (word.rest ++ rest) := by
    simp [Lexeme.Step.next, unquoted, if_neg readable, word.starts]
  rw [step, Lexeme.Step.identifier, word.takeWhile_append apart, word.dropWhile_append apart,
    unquoted]
  rfl

/-- A word is left as it is after a dot or where it is taken for a key. -/
theorem scan_word (context : Context) (unquoted : context.quote = none)
    (readable : IsReadable context.nesting) (word : Word) (apart : IsApart rest) :
    scan bindings context (word.text ++ rest) =
      (if context.afterDot || (context.keyPosition && Lexeme.startsAnnotation rest) then word.text
        else bindings.nameOf word.text) ++
      scan bindings (place context.nesting
        (context.keyPosition && word.text == "readonly".toList)) rest := by
  rw [Word.text, List.cons_append, scan_cons, next_word context unquoted readable word apart,
    Lexeme.renamed_eq, Word.text]
  cases context.afterDot <;>
    cases context.keyPosition && Lexeme.startsAnnotation rest <;> rfl

/-! ## Strings and templates -/

/-- The context inside a quoted string. -/
private def quoted (nesting : List Nesting) (quote : Char) : Context :=
  { nesting, quote := some quote, afterDot := false, keyPosition := false }

/-- A character that escapes nothing and does not end the text is no backslash. -/
theorem ne_backslash {char : Char} (notLast : char = '\\' → text = [] → False)
    (noEscape : ∀ escaped others, char = '\\' → text = escaped :: others → False) :
    char ≠ '\\' := by
  intro backslash
  cases text with
  | nil => exact notLast backslash rfl
  | cons escaped others => exact noEscape escaped others backslash rfl

/-- The contents of a string are written as they stand, up to its quote. -/
private theorem scan_quotedText {quote : Char} (closed : isQuotedText quote text) :
    scan bindings (quoted nesting quote) (text ++ rest) =
      text ++ scan bindings (quoted nesting quote) rest := by
  fun_induction isQuotedText quote text with
  | case1 => rfl
  | case2 => exact absurd closed (by decide)
  | case3 escaped text ih =>
    rw [List.cons_append, scan_cons]
    exact congrArg (fun written => '\\' :: escaped :: written) (ih closed)
  | case4 char text notLast noEscape ih =>
    obtain ⟨inside, closed⟩ := Bool.and_eq_true_iff.mp closed
    have noBackslash := ne_backslash notLast noEscape
    have step : Lexeme.Step.next (quoted nesting quote) char (text ++ rest) =
        ⟨.verbatim [char], quoted nesting quote, text ++ rest⟩ := by
      simp only [Lexeme.Step.next, quoted, Lexeme.Step.inString, if_neg noBackslash,
        if_neg (bne_iff_ne.mp inside)]
    rw [List.cons_append, scan_cons, step, ih closed]
    rfl

/-- A quoted string is left as it is, and the scanner knows nothing of it afterwards. -/
theorem scan_literal {context : Context} (unquoted : context.quote = none)
    (readable : IsReadable context.nesting) (literal : StringLiteral) :
    scan bindings context (literal.written ++ rest) =
      literal.written ++ scan bindings (place context.nesting false) rest := by
  obtain ⟨nesting, quote, afterDot, keyPosition⟩ := context
  cases unquoted
  have opened : scan bindings ⟨nesting, none, afterDot, keyPosition⟩
      (literal.quote :: (literal.text ++ literal.quote :: rest)) =
      literal.quote :: scan bindings (quoted nesting literal.quote)
        (literal.text ++ literal.quote :: rest) := by
    rcases literal.isQuote with single | double
    · rw [single, scan_mark rfl readable (by decide)]
      rfl
    · rw [double, scan_mark rfl readable (by decide)]
      rfl
  have closes : scan bindings (quoted nesting literal.quote) (literal.quote :: rest) =
      literal.quote :: scan bindings (place nesting false) rest := by
    rcases literal.isQuote with single | double
    · rw [single, scan_cons]
      rfl
    · rw [double, scan_cons]
      rfl
  simp only [StringLiteral.written, List.append_assoc, List.cons_append, List.nil_append]
  rw [opened, scan_quotedText literal.closed, closes]

/-- A backtick opens a template. -/
theorem scan_openingBacktick {context : Context} (unquoted : context.quote = none)
    (readable : IsReadable context.nesting) :
    scan bindings context ('\x60' :: rest) =
      '\x60' :: scan bindings (place (.template :: context.nesting) false) rest := by
  rw [scan_mark unquoted readable (by decide)]
  obtain ⟨nesting, quote, afterDot, keyPosition⟩ := context
  cases unquoted
  rfl

/-- Inside a template a backtick closes it. -/
theorem scan_closingBacktick :
    scan bindings (place (.template :: nesting) false) ('\x60' :: rest) =
      '\x60' :: scan bindings (place nesting false) rest := by
  rw [scan_cons]
  rfl

/-- A dollar and a brace open a placeholder inside a template. -/
theorem scan_openingPlaceholder :
    scan bindings (place (.template :: nesting) false) ('$' :: '{' :: rest) =
      '$' :: '{' :: scan bindings (place (.placeholder :: .template :: nesting) false) rest := by
  rw [scan_cons]
  rfl

/-- A closing brace leads from the placeholder back into the template. -/
theorem scan_closingPlaceholder :
    scan bindings (place (.placeholder :: nesting) key) ('}' :: rest) =
      '}' :: scan bindings (place nesting false) rest :=
  scan_mark rfl nofun (by decide)

/-- The literal part of a template is left as it is. What follows it must not open a brace, which
would open a placeholder after a dollar sign. -/
theorem scan_templateText (literal : isTemplateText text) (apart : rest.head? ≠ some '{') :
    scan bindings (place (.template :: nesting) false) (text ++ rest) =
      text ++ scan bindings (place (.template :: nesting) false) rest := by
  fun_induction isTemplateText text with
  | case1 => rfl
  | case2 => exact absurd literal (by decide)
  | case3 escaped text ih =>
    rw [List.cons_append, scan_cons]
    exact congrArg (fun written => '\\' :: escaped :: written) (ih literal)
  | case4 => exact absurd literal (by decide)
  | case5 char text notLast noEscape noPlaceholder ih =>
    obtain ⟨inside, literal⟩ := Bool.and_eq_true_iff.mp literal
    have noBackslash := ne_backslash notLast noEscape
    have step : Lexeme.Step.next (place (.template :: nesting) false) char (text ++ rest) =
        ⟨.verbatim [char], place (.template :: nesting) false, text ++ rest⟩ := by
      simp only [Lexeme.Step.next, place, List.head?_cons, if_true]
      unfold Lexeme.Step.inTemplate
      split
      · exact absurd rfl noBackslash
      · exact absurd inside (by decide)
      · next opened =>
        cases text with
        | nil => exact absurd (congrArg List.head? opened) apart
        | cons next text =>
          exact (noPlaceholder text rfl (congrArg (· :: text) (List.cons.inj opened).1)).elim
      · rfl
    rw [List.cons_append, scan_cons, step, ih literal]
    rfl

end ElementTypings.TypeText
