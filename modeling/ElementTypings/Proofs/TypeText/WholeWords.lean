import ElementTypings.Proofs.TypeText.MemberNames
import ElementTypings.Proofs.TypeText.Tokenization
import Mathlib.Data.List.Chain

/-!
# Renaming replaces whole words

A name ends where no identifier goes on, so what renaming replaces is never the beginning of a
longer word. Nor does it stand right behind a letter: the scanner steps over a word as a whole, and
everything else that it steps over ends in a mark or a numeral before a name can start
(`isBounded_next`). But the scanner steps over the digits of a number one by one, and a letter
behind a digit starts a name. So renaming replaces whole words exactly in a text in which no
reference stands right behind a numeral (`whole_words_replaced_iff`).
-/

namespace ElementTypings.TypeText

variable {bindings : Bindings} {context : Context} {text : List Char} {earlier later : List Lexeme}
  {lexeme : Lexeme}

/-! ## One step -/

/-- The quote that a string waits for starts no identifier. -/
def Context.QuoteIsMark (context : Context) : Prop :=
  ∀ quote ∈ context.quote, isIdentifierStart quote = false

/-- Only a quote opens a string, and the same quote closes it. -/
theorem quote_afterMark (context : Context) (char : Char) :
    (context.afterMark char).quote =
      if char = '\'' ∨ char = '"' then some char else context.quote := by
  by_cases single : char = '\''
  · subst single
    rfl
  by_cases double : char = '"'
  · subst double
    rfl
  rw [if_neg (not_or.mpr ⟨single, double⟩)]
  by_cases blank : Text.isBlank char
  · rw [afterMark_of_isBlank blank]
  unfold Context.afterMark
  rw [if_neg blank]
  split
  · exact absurd rfl single
  · exact absurd rfl double
  · rfl
  · rfl
  · split <;> rfl
  · rfl

namespace Lexeme.Step

/-- What a step leaves behind: outside of literals, an identifier only starts right behind a piece
that ends in a mark or a numeral. -/
structure IsBounded (step : Step) : Prop where
  quoteIsMark : step.context.QuoteIsMark
  boundary : step.context.IsOutside → (∃ first ∈ step.rest.head?, isIdentifierStart first) →
    ∀ last ∈ step.lexeme.text.getLast?, isIdentifierStart last = false

section

variable {step : Step}

/-- A step that stays inside a literal cuts no word. -/
private theorem isBounded_of_inside (quote : step.context.QuoteIsMark)
    (inside : ¬ step.context.IsOutside) : step.IsBounded :=
  ⟨quote, fun outside => absurd outside inside⟩

/-- A step that ends in a mark cuts no word. -/
private theorem isBounded_of_mark (quote : step.context.QuoteIsMark) {taken : List Char}
    {char : Char} (ends : step.lexeme.text = taken ++ [char])
    (mark : isIdentifierStart char = false) : step.IsBounded := by
  refine ⟨quote, fun _ _ last found => ?_⟩
  rw [ends, List.getLast?_concat] at found
  obtain rfl := Option.some.inj found
  exact mark

end

private theorem isBounded_escape (quote : context.QuoteIsMark) (inside : ¬ context.IsOutside)
    (rest : List Char) : (escape context rest).IsBounded := by
  cases rest with
  | nil => exact isBounded_of_inside quote inside
  | cons escaped rest => exact isBounded_of_inside quote inside

private theorem isBounded_inString {closing : Char} (quoted : context.quote = some closing)
    (quote : context.QuoteIsMark) (char : Char) (rest : List Char) :
    (inString context closing char rest).IsBounded := by
  have inside : ¬ context.IsOutside := fun outside =>
    Option.some_ne_none closing (quoted.symm.trans outside.unquoted)
  unfold inString
  split
  · exact isBounded_escape quote inside rest
  · split
    · next closes =>
      -- An identifier can start right behind the closing quote.
      have mark : isIdentifierStart char = false := closes ▸ quote closing quoted
      exact isBounded_of_mark nofun (List.nil_append [char]).symm mark
    · exact isBounded_of_inside quote inside

private theorem isBounded_inTemplate (literal : context.nesting.head? = some .template)
    (quote : context.QuoteIsMark) (char : Char) (rest : List Char) :
    (inTemplate context char rest).IsBounded := by
  have inside : ¬ context.IsOutside := fun outside => outside.readable literal
  unfold inTemplate
  split
  · exact isBounded_escape quote inside _
  · exact isBounded_of_mark quote (List.nil_append ['\x60']).symm (by decide)
  · exact isBounded_of_mark quote (List.singleton_append (l := ['{'])).symm (by decide)
  · exact isBounded_of_inside quote inside

/-- A mark opens a string only by a quote. -/
private theorem quoteIsMark_afterMark (quote : context.QuoteIsMark) (char : Char) :
    (context.afterMark char).QuoteIsMark := by
  intro closing found
  rw [quote_afterMark] at found
  split at found
  · next opens =>
    obtain rfl := Option.some.inj found
    rcases opens with rfl | rfl <;> decide
  · exact quote closing found

/-- No step stops in the middle of a word. -/
theorem isBounded_next (quote : context.QuoteIsMark) (char : Char) (rest : List Char) :
    (next context char rest).IsBounded := by
  unfold next
  split
  · next closing quoted => exact isBounded_inString quoted quote char rest
  · split
    · next literal => exact isBounded_inTemplate literal quote char rest
    · split
      · next starts =>
        obtain ⟨word, after, rfl, rfl, apart⟩ := exists_word starts rest
        refine ⟨quote, fun _ going => ?_⟩
        obtain ⟨first, found, starts⟩ := going
        rw [identifier, word.dropWhile_append apart] at found
        rw [isIdentifierStart_eq_false (apart first found)] at starts
        exact absurd starts Bool.false_ne_true
      · next mark =>
        exact isBounded_of_mark (quoteIsMark_afterMark quote char) (List.nil_append [char]).symm
          (Bool.eq_false_of_not_eq_true mark)

/-- A reference is a word, read outside of literals as far as it goes. -/
theorem reference_cases (context : Context) (char : Char) (rest : List Char)
    (reference : (next context char rest).lexeme.isReference) :
    context.IsOutside ∧ isIdentifierStart char ∧ IsApart (next context char rest).rest := by
  rcases next_cases context char rest with ⟨word, after, rfl, rfl, apart, outside⟩ | verbatim
  · rw [next_word context outside.unquoted outside.readable word apart]
    exact ⟨outside, word.starts, apart⟩
  · obtain ⟨tail, after, reached, rfl, reads⟩ := verbatim
    rw [reads after (.refl reached after)] at reference
    exact absurd reference Bool.false_ne_true

end Lexeme.Step

/-! ## All steps -/

/-- The first lexeme is made in one step, and the others from what it leaves. -/
theorem exists_next_of_all_eq_cons (read : Lexeme.all context text = lexeme :: later) :
    ∃ char rest, text = char :: rest ∧ lexeme = (Lexeme.Step.next context char rest).lexeme ∧
      later = Lexeme.all (Lexeme.Step.next context char rest).context
        (Lexeme.Step.next context char rest).rest := by
  cases text with
  | nil => simp [Lexeme.all] at read
  | cons char rest =>
    rw [all_cons] at read
    obtain ⟨rfl, rfl⟩ := List.cons.inj read
    exact ⟨char, rest, rfl, rfl, rfl⟩

/-- Every lexeme is made in one step, from a context in which the quote is a mark. -/
theorem exists_next_of_all_eq_append (quote : context.QuoteIsMark)
    (split : Lexeme.all context text = earlier ++ lexeme :: later) :
    ∃ (reached : Context) (char : Char) (rest : List Char), reached.QuoteIsMark ∧
      lexeme = (Lexeme.Step.next reached char rest).lexeme ∧
      later = Lexeme.all (Lexeme.Step.next reached char rest).context
        (Lexeme.Step.next reached char rest).rest := by
  induction earlier generalizing context text with
  | nil =>
    obtain ⟨char, rest, _, rfl, rfl⟩ := exists_next_of_all_eq_cons split
    exact ⟨context, char, rest, quote, rfl, rfl⟩
  | cons first earlier ih =>
    obtain ⟨char, rest, _, _, remains⟩ := exists_next_of_all_eq_cons split
    exact ih (Lexeme.Step.isBounded_next quote char rest).quoteIsMark remains.symm

theorem quoteIsMark_start : Context.start.QuoteIsMark :=
  nofun

/-- No identifier goes on behind a reference. -/
theorem isApart_of_all_eq (quote : context.QuoteIsMark)
    (split : Lexeme.all context text = earlier ++ lexeme :: later)
    (reference : lexeme.isReference) : IsApart (later.flatMap Lexeme.text) := by
  obtain ⟨reached, char, rest, _, rfl, rfl⟩ := exists_next_of_all_eq_append quote split
  rw [Lexeme.flatMap_text_all]
  exact (Lexeme.Step.reference_cases reached char rest reference).2.2

/-- The piece before a reference ends in a mark or a numeral. -/
theorem isIdentifierStart_last_eq_false (quote : context.QuoteIsMark) {piece : Lexeme}
    (split : Lexeme.all context text = earlier ++ piece :: lexeme :: later)
    (reference : lexeme.isReference) :
    ∀ last ∈ piece.text.getLast?, isIdentifierStart last = false := by
  obtain ⟨reached, char, rest, quote, rfl, read⟩ := exists_next_of_all_eq_append quote split
  obtain ⟨first, others, remains, rfl, -⟩ := exists_next_of_all_eq_cons read.symm
  obtain ⟨outside, starts, -⟩ := Lexeme.Step.reference_cases _ first others reference
  have bounded := Lexeme.Step.isBounded_next quote char rest
  exact bounded.boundary outside ⟨first, by rw [remains]; rfl, starts⟩

theorem text_ne_nil (member : lexeme ∈ Lexeme.all context text) : lexeme.text ≠ [] := by
  fun_induction Lexeme.all context text with
  | case1 => exact absurd member List.not_mem_nil
  | case2 context char rest step ih =>
    rcases List.mem_cons.mp member with rfl | later
    · intro empty
      have taken := congrArg List.length (Lexeme.Step.next_text context char rest)
      have left := Lexeme.Step.length_rest_next context char rest
      simp only [empty, List.nil_append, List.length_cons, step] at taken
      omega
    · exact ih later

/-! ## Replacements -/

/-- A place where renaming changes a text: a piece that is written in another way than it stands
there. -/
structure Replacement (text : String) (bindings : Bindings) where
  earlier : List Lexeme
  lexeme : Lexeme
  later : List Lexeme
  split : lexemes text = earlier ++ lexeme :: later
  changed : lexeme.renamed bindings ≠ lexeme.text

namespace Replacement

variable {text : String}

/-- The text in front of the place. -/
def before (place : Replacement text bindings) : List Char :=
  place.earlier.flatMap Lexeme.text

/-- The text behind the place. -/
def after (place : Replacement text bindings) : List Char :=
  place.later.flatMap Lexeme.text

/-- No identifier goes on into the place or out of it. -/
structure IsWhole (place : Replacement text bindings) : Prop where
  before : ∀ last ∈ place.before.getLast?, isIdentifierContinue last = false
  after : IsApart place.after

/-- Every reference is replaced under the bindings that make its name longer. -/
def ofReference (split : lexemes text = earlier ++ lexeme :: later)
    (reference : lexeme.isReference) : Replacement text (Bindings.suffixed lexeme.text) where
  earlier := earlier
  lexeme := lexeme
  later := later
  split := split
  changed := by
    rw [Lexeme.renamed_eq, if_pos reference, nameOf_suffixed, if_pos rfl]
    simp

/-- A replaced name stands between what is before it and what is behind it. -/
theorem text_eq (place : Replacement text bindings) :
    text.toList = place.before ++ (place.lexeme.text ++ place.after) := by
  have pieces : (lexemes text).flatMap Lexeme.text = text.toList :=
    Lexeme.flatMap_text_all .start text.toList
  rw [← pieces, place.split, List.flatMap_append, List.flatMap_cons]
  rfl

/-- The piece that is replaced is a reference. -/
theorem isReference (place : Replacement text bindings) : place.lexeme.isReference := by
  by_contra other
  exact place.changed (if_neg other)

/-- At the place stands what the piece is called under the bindings. -/
theorem toList_rename (place : Replacement text bindings) :
    (rename text bindings).toList =
      place.earlier.flatMap (Lexeme.renamed bindings) ++
        (bindings.nameOf place.lexeme.text ++
          place.later.flatMap (Lexeme.renamed bindings)) := by
  have called : place.lexeme.renamed bindings = bindings.nameOf place.lexeme.text :=
    if_pos place.isReference
  rw [TypeText.rename_eq, String.toList_ofList, place.split, List.flatMap_append,
    List.flatMap_cons, called]

/-- What follows a replaced name does not continue it. -/
theorem isApart_after (place : Replacement text bindings) : IsApart place.after :=
  isApart_of_all_eq quoteIsMark_start place.split place.isReference

/-- What stands in front of a place ends as the piece before the place does. -/
theorem getLast?_flatMap_text {piece : Lexeme} (split : lexemes text = earlier ++ piece :: later) :
    ((earlier ++ [piece]).flatMap Lexeme.text).getLast? = piece.text.getLast? := by
  have nonempty : piece.text ≠ [] := text_ne_nil (split ▸ List.mem_append_cons_self)
  rw [List.flatMap_append, List.flatMap_singleton, List.getLast?_append_of_ne_nil _ nonempty]

/-- Nothing stands in front of the place, or a piece does. -/
theorem before_cases (place : Replacement text bindings) :
    place.before = [] ∨ ∃ others piece,
      lexemes text = others ++ piece :: place.lexeme :: place.later ∧
        place.before.getLast? = piece.text.getLast? := by
  rcases List.eq_nil_or_concat' place.earlier with first | ⟨others, piece, earlier⟩
  · exact .inl (by rw [before, first, List.flatMap_nil])
  · have split := place.split
    rw [earlier, List.append_assoc, List.singleton_append] at split
    exact .inr ⟨others, piece, split, by rw [before, earlier, getLast?_flatMap_text split]⟩

/-- The place does not stand right behind a letter. -/
theorem isIdentifierStart_before_eq_false (place : Replacement text bindings) :
    ∀ last ∈ place.before.getLast?, isIdentifierStart last = false := by
  rcases place.before_cases with none | ⟨others, piece, split, ends⟩
  · rw [none]
    nofun
  · rw [ends]
    exact isIdentifierStart_last_eq_false quoteIsMark_start split place.isReference

end Replacement

/-- Whether the piece ends in a numeral. -/
def Lexeme.endsInNumeral (lexeme : Lexeme) : Bool :=
  lexeme.text.getLast?.any Text.isNumeric

/-- No reference stands right behind a numeral. -/
def NumeralsStandApart (text : String) : Prop :=
  (lexemes text).IsChain fun piece next => next.isReference → piece.endsInNumeral = false

instance (text : String) : Decidable (NumeralsStandApart text) :=
  inferInstanceAs (Decidable (List.IsChain _ _))

/-- Numerals stand apart exactly if no digit comes right before a reference. -/
theorem numeralsStandApart_iff {text : String} :
    NumeralsStandApart text ↔ ∀ ⦃piece next others later⦄,
      lexemes text = others ++ piece :: next :: later → next.isReference →
        ∀ last ∈ piece.text.getLast?, Text.isNumeric last = false := by
  rw [NumeralsStandApart, List.isChain_iff_forall_rel_of_append_cons_cons]
  simp only [Lexeme.endsInNumeral, Option.any_eq_false]
  rfl

/-- What continues no word is no digit and starts no word. -/
theorem isIdentifierContinue_eq_false_iff (char : Char) :
    isIdentifierContinue char = false ↔
      isIdentifierStart char = false ∧ Text.isNumeric char = false := by
  simp only [isIdentifierStart, isIdentifierContinue, Bool.or_eq_false_iff]
  tauto

/-- **Renaming replaces whole words.** Wherever renaming changes a text, it puts the bound name of
an identifier in its place, and the identifier does not go on behind the place and does not stand
right behind a letter. All that it replaces, whatever the bindings, are whole words exactly if no
reference stands right behind a numeral. -/
theorem whole_words_replaced_iff (text : String) :
    (∀ (bindings : Bindings) (place : Replacement text bindings),
      text.toList = place.before ++ (place.lexeme.text ++ place.after) ∧
      (rename text bindings).toList =
        place.earlier.flatMap (Lexeme.renamed bindings) ++
          (bindings.nameOf place.lexeme.text ++
            place.later.flatMap (Lexeme.renamed bindings)) ∧
      isIdentifier place.lexeme.text ∧ IsApart place.after ∧
        ∀ last ∈ place.before.getLast?, isIdentifierStart last = false) ∧
    ((∀ (bindings : Bindings) (place : Replacement text bindings), place.IsWhole) ↔
      NumeralsStandApart text) := by
  refine ⟨fun bindings place => ?_, ?_, ?_⟩
  · have member : place.lexeme ∈ lexemes text := place.split ▸ List.mem_append_cons_self
    exact ⟨place.text_eq, place.toList_rename, isIdentifier_of_mem_all member place.isReference,
      place.isApart_after, place.isIdentifierStart_before_eq_false⟩
  · intro whole
    refine numeralsStandApart_iff.mpr fun piece next others later split reference last found => ?_
    have split' : lexemes text = (others ++ [piece]) ++ next :: later := by
      rw [split, List.append_assoc, List.singleton_append]
    have ends : last ∈ ((others ++ [piece]).flatMap Lexeme.text).getLast? := by
      rwa [Replacement.getLast?_flatMap_text split]
    have mark := (whole _ (.ofReference split' reference)).before last ends
    exact ((isIdentifierContinue_eq_false_iff last).mp mark).2
  · intro apart bindings place
    refine ⟨?_, place.isApart_after⟩
    rcases place.before_cases with none | ⟨others, piece, split, ends⟩
    · rw [none]
      nofun
    · intro last found
      have starts := place.isIdentifierStart_before_eq_false last found
      rw [ends] at found
      have numeral := numeralsStandApart_iff.mp apart split place.isReference last found
      exact (isIdentifierContinue_eq_false_iff last).mpr ⟨starts, numeral⟩

/-- Numerals inside words and literals stand apart from names. -/
example : NumeralsStandApart
    "Map<Foo2Bar, 0.5> & x1.y2z | '1n' | \x60$\x7bFoo\x7d2em\x60 | \x7b 12: Foo \x7d" := by
  decide +kernel

/-- Tails of numbers are replaced like a word that reads the same. -/
theorem tails_of_numbers_replaced :
    let text := "0xFF | 1e5 | 1n | xFF"
    let bindings : Bindings := OrderedMap.ofList [("xFF", "xFF2"), ("e5", "e52"), ("n", "n2")]
    rename text bindings = "0xFF2 | 1e52 | 1n2 | xFF2" ∧
      ¬ NumeralsStandApart text ∧
      ∃ place : Replacement text bindings,
        place.before = "0".toList ∧ place.lexeme.text = "xFF".toList ∧ ¬ place.IsWhole := by
  intro text bindings
  let place : Replacement text bindings :=
    { earlier := [.verbatim ['0']]
      lexeme := { text := "xFF".toList, isReference := true }
      later := (lexemes text).drop 2
      split := by decide +kernel
      changed := by decide +kernel }
  refine ⟨by decide +kernel, by decide +kernel, place, rfl, rfl, fun whole => ?_⟩
  have mark : isIdentifierContinue '0' = false := whole.before '0' rfl
  exact absurd mark (by decide)

end ElementTypings.TypeText
