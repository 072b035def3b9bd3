import ElementTypings.Proofs.TypeText.Pieces

/-!
# What a lexeme depends on

The scanner decides on a lexeme by its context, by its characters and by a glance at what follows
them: whether an identifier goes on, whether an annotation starts and, inside a literal, whether
the text ends and whether a brace opens. In front of two texts that look alike to this glance
(`Alike`) it reads the same lexeme, and if the lexeme is a reference then any other name can stand
in its place (`all_renamed_append`).

A text that stops as a type does is seen by no lexeme before it, so it does not matter to a text
that ends outside literals (`scan_append`).
-/

namespace ElementTypings.TypeText

/-- The place lies outside strings and outside the literal parts of templates. -/
structure Context.IsOutside (context : Context) : Prop where
  unquoted : context.quote = none
  readable : IsReadable context.nesting

instance (context : Context) : Decidable context.IsOutside :=
  decidable_of_iff (context.quote = none ∧ context.nesting.head? ≠ some .template)
    ⟨fun ⟨unquoted, readable⟩ => ⟨unquoted, readable⟩,
      fun ⟨unquoted, readable⟩ => ⟨unquoted, readable⟩⟩

/-- Two texts look alike behind a lexeme that leads to the context. -/
structure Alike (context : Context) (text other : List Char) : Prop where
  apart : IsApart text → IsApart other
  annotation : Lexeme.startsAnnotation other = Lexeme.startsAnnotation text
  ends_iff : ¬ context.IsOutside → (other = [] ↔ text = [])
  brace_iff : ¬ context.IsOutside → (other.head? = some '{' ↔ text.head? = some '{')

theorem Alike.refl (context : Context) (text : List Char) : Alike context text text :=
  ⟨id, rfl, fun _ => Iff.rfl, fun _ => Iff.rfl⟩

variable {bindings : Bindings} {context : Context} {text rest other more : List Char}

/-! ## One lexeme -/

/-- Where an identifier starts, there is a word and something that does not continue it. -/
theorem exists_word {char : Char} (starts : isIdentifierStart char) (rest : List Char) :
    ∃ (word : Word) (after : List Char), char = word.first ∧ rest = word.rest ++ after ∧
      IsApart after := by
  have continues : (rest.takeWhile isIdentifierContinue).all isIdentifierContinue :=
    List.all_takeWhile
  refine ⟨⟨char, _, starts, continues⟩, rest.dropWhile isIdentifierContinue, rfl,
    List.takeWhile_append_dropWhile.symm, fun first found => ?_⟩
  have stopped := List.head?_dropWhile_not isIdentifierContinue rest
  rw [Option.mem_def.mp found] at stopped
  exact stopped

/-- The scanner takes the character as it is, perhaps with some that follow it, and would do so in
front of every text that looks like what remains. -/
def ReadsVerbatim (context : Context) (char : Char) (rest : List Char) : Prop :=
  ∃ tail after reached, rest = tail ++ after ∧ ∀ other, Alike reached after other →
    Lexeme.Step.next context char (tail ++ other) = ⟨.verbatim (char :: tail), reached, other⟩

/-- Where a backslash escapes, it is read the same whatever follows. -/
private theorem readsVerbatim_escape (inside : ¬ context.IsOutside)
    (escapes : ∀ rest, Lexeme.Step.next context '\\' rest = .escape context rest)
    (rest : List Char) : ReadsVerbatim context '\\' rest := by
  cases rest with
  | nil =>
    refine ⟨[], [], context, rfl, fun other alike => ?_⟩
    rw [(alike.ends_iff inside).mpr rfl, List.append_nil, escapes]
    rfl
  | cons escaped rest =>
    refine ⟨[escaped], rest, context, rfl, fun other _ => ?_⟩
    rw [List.cons_append, escapes]
    rfl

/-- Inside a string a character is read the same whatever follows. -/
private theorem readsVerbatim_string {quote : Char} (quoted : context.quote = some quote)
    (char : Char) (rest : List Char) : ReadsVerbatim context char rest := by
  have next (rest : List Char) : Lexeme.Step.next context char rest =
      .inString context quote char rest := by
    simp only [Lexeme.Step.next, quoted]
  have inside : ¬ context.IsOutside := fun outside =>
    Option.some_ne_none quote (quoted.symm.trans outside.unquoted)
  by_cases backslash : char = '\\'
  · subst backslash
    exact readsVerbatim_escape inside (fun rest => (next rest).trans (if_pos rfl)) rest
  · by_cases closes : char = quote
    · refine ⟨[], rest, { context with quote := none }, rfl, fun other _ => ?_⟩
      rw [List.nil_append, next, Lexeme.Step.inString, if_neg backslash, if_pos closes]
    · refine ⟨[], rest, context, rfl, fun other _ => ?_⟩
      rw [List.nil_append, next, Lexeme.Step.inString, if_neg backslash, if_neg closes]

/-- Inside a template a character is read the same whatever follows. -/
private theorem readsVerbatim_template (unquoted : context.quote = none)
    (inTemplate : context.nesting.head? = some .template) (char : Char) (rest : List Char) :
    ReadsVerbatim context char rest := by
  have next (char : Char) (rest : List Char) : Lexeme.Step.next context char rest =
      .inTemplate context char rest := by
    simp only [Lexeme.Step.next, unquoted, if_pos inTemplate]
  have inside : ¬ context.IsOutside := fun outside => outside.readable inTemplate
  by_cases backslash : char = '\\'
  · subst backslash
    exact readsVerbatim_escape inside (next '\\') rest
  by_cases closes : char = '\x60'
  · subst closes
    exact ⟨[], rest, { context with nesting := context.nesting.tail }, rfl, fun other _ =>
      next '\x60' other⟩
  by_cases opens : char = '$' ∧ rest.head? = some '{'
  · obtain ⟨rfl, brace⟩ := opens
    obtain ⟨later, rfl⟩ := List.head?_eq_some_iff.mp brace
    exact ⟨['{'], later,
      { context with
        nesting := .placeholder :: context.nesting
        afterDot := false
        keyPosition := false }, rfl, fun other _ => next '$' ('{' :: other)⟩
  · refine ⟨[], rest, context, rfl, fun other alike => ?_⟩
    rw [List.nil_append, next]
    unfold Lexeme.Step.inTemplate
    split
    · exact absurd rfl backslash
    · exact absurd rfl closes
    · exact absurd ⟨rfl, (alike.brace_iff inside).mp rfl⟩ opens
    · rfl

/-- What the scanner does at a character: outside literals it may read a word, and otherwise it
takes the character as it is, perhaps with the next one. -/
theorem next_cases (context : Context) (char : Char) (rest : List Char) :
    (∃ (word : Word) (after : List Char), char = word.first ∧ rest = word.rest ++ after ∧
      IsApart after ∧ context.IsOutside) ∨ ReadsVerbatim context char rest := by
  cases quoted : context.quote with
  | some quote => exact .inr (readsVerbatim_string quoted char rest)
  | none =>
    by_cases inTemplate : context.nesting.head? = some .template
    · exact .inr (readsVerbatim_template quoted inTemplate char rest)
    by_cases starts : isIdentifierStart char
    · obtain ⟨word, after, first, others, apart⟩ := exists_word starts rest
      exact .inl ⟨word, after, first, others, apart, quoted, inTemplate⟩
    · have mark : isIdentifierStart char = false := (Bool.not_eq_true _).mp starts
      exact .inr ⟨[], rest, context.afterMark char, rfl, fun other _ =>
        next_mark quoted inTemplate mark other⟩

/-! ## Annotations -/

/-- Blanks before an annotation do not matter. -/
theorem startsAnnotation_blank {char : Char} (blank : Text.isBlank char) (text : List Char) :
    Lexeme.startsAnnotation (char :: text) = Lexeme.startsAnnotation text := by
  rw [Lexeme.startsAnnotation, Text.dropBlanks, List.dropWhile_cons_of_pos blank]
  rfl

/-- An annotation starts with a colon, or with a question mark and a colon. -/
theorem startsAnnotation_solid {char : Char} (solid : Text.isBlank char = false)
    (text : List Char) :
    Lexeme.startsAnnotation (char :: text) ↔
      char = ':' ∨ (char = '?' ∧ text.head? = some ':') := by
  rw [Lexeme.startsAnnotation, Text.dropBlanks, List.dropWhile_cons_of_neg (by simp [solid])]
  cases text <;> grind

/-- Behind the same beginning, an annotation is found in both of two texts or in neither. -/
theorem startsAnnotation_append_congr
    (same : Lexeme.startsAnnotation other = Lexeme.startsAnnotation more)
    (colon : other.head? = some ':' ↔ more.head? = some ':') (text : List Char) :
    Lexeme.startsAnnotation (text ++ other) = Lexeme.startsAnnotation (text ++ more) := by
  induction text with
  | nil => exact same
  | cons char text ih =>
    cases blank : Text.isBlank char with
    | true =>
      rw [List.cons_append, List.cons_append, startsAnnotation_blank blank,
        startsAnnotation_blank blank, ih]
    | false =>
      have next : (text ++ other).head? = some ':' ↔ (text ++ more).head? = some ':' := by
        cases text with
        | nil => exact colon
        | cons => exact Iff.rfl
      rw [Bool.eq_iff_iff, List.cons_append, List.cons_append, startsAnnotation_solid blank,
        startsAnnotation_solid blank, next]

/-- What stops a type is no annotation for the name at the end of a text. -/
theorem startsAnnotation_append (stops : Stops true more) (text : List Char) :
    Lexeme.startsAnnotation (text ++ more) = Lexeme.startsAnnotation text := by
  have unannotated := stops.unannotated rfl
  have colon : more.head? = some ':' ↔ ([] : List Char).head? = some ':' := by
    refine ⟨fun begins => ?_, nofun⟩
    obtain ⟨later, rfl⟩ := List.head?_eq_some_iff.mp begins
    exact absurd unannotated.symm Bool.false_ne_true
  have same : Lexeme.startsAnnotation (text ++ more) = Lexeme.startsAnnotation (text ++ []) :=
    startsAnnotation_append_congr unannotated colon text
  rwa [List.append_nil] at same

/-! ## Lexemes under other names -/

/-- The lexeme under its new name. -/
def Lexeme.rename (bindings : Bindings) (lexeme : Lexeme) : Lexeme :=
  { lexeme with text := lexeme.renamed bindings }

/-- The new name of a word is a word, and the scanner learns the same from both. -/
structure Bindings.KeepsWords (bindings : Bindings) : Prop where
  isWord : ∀ word : Word, ∃ renamed : Word, bindings.nameOf word.text = renamed.text
  readonly_iff : ∀ word : Word,
    bindings.nameOf word.text = "readonly".toList ↔ word.text = "readonly".toList

theorem keepsWords_empty : Bindings.KeepsWords ∅ :=
  ⟨fun word => ⟨word, rfl⟩, fun _ => Iff.rfl⟩

/-- Whatever its role, a word becomes a word. -/
theorem Bindings.KeepsWords.exists_renamed (keeps : bindings.KeepsWords) (word : Word)
    (isReference : Bool) :
    ∃ renamed : Word, Lexeme.renamed bindings ⟨word.text, isReference⟩ = renamed.text ∧
      (renamed.text == "readonly".toList) = (word.text == "readonly".toList) := by
  cases isReference with
  | false => exact ⟨word, rfl, rfl⟩
  | true =>
    obtain ⟨renamed, isWord⟩ := keeps.isWord word
    refine ⟨renamed, isWord, ?_⟩
    rw [Bool.eq_iff_iff, beq_iff_eq, beq_iff_eq, ← isWord]
    exact keeps.readonly_iff word

/-- The lexemes of a text are that of its first step and those of the rest. -/
theorem all_cons (context : Context) (char : Char) (rest : List Char) :
    Lexeme.all context (char :: rest) =
      (Lexeme.Step.next context char rest).lexeme ::
        Lexeme.all (Lexeme.Step.next context char rest).context
          (Lexeme.Step.next context char rest).rest := by
  rw [Lexeme.all]

/-- In front of a text that looks like what remains behind a lexeme, the renamed lexeme is read in
the same role, and with the same knowledge afterwards. -/
theorem all_renamed_append (keeps : bindings.KeepsWords) (char : Char) (rest other : List Char)
    (alike : Alike (Lexeme.Step.next context char rest).context
      (Lexeme.Step.next context char rest).rest other) :
    Lexeme.all context ((Lexeme.Step.next context char rest).lexeme.renamed bindings ++ other) =
      (Lexeme.Step.next context char rest).lexeme.rename bindings ::
        Lexeme.all (Lexeme.Step.next context char rest).context other := by
  rcases next_cases context char rest with ⟨word, after, rfl, rfl, apart, outside⟩ | verbatim
  · rw [next_word context outside.unquoted outside.readable word apart] at alike ⊢
    -- A reference may have got another name, but one that the scanner reads as it read the word.
    obtain ⟨renamed, isWord, sameRole⟩ := keeps.exists_renamed word
      (!context.afterDot && !(context.keyPosition && Lexeme.startsAnnotation after))
    rw [Lexeme.rename, isWord, Word.text, List.cons_append, all_cons,
      next_word context outside.unquoted outside.readable renamed (alike.apart apart), sameRole,
      alike.annotation]
    rfl
  · obtain ⟨tail, after, reached, rfl, reads⟩ := verbatim
    rw [reads after (.refl reached after)] at alike ⊢
    have kept : (Lexeme.verbatim (char :: tail)).renamed bindings = char :: tail := rfl
    rw [kept, List.cons_append, all_cons, reads other alike]
    rfl

/-! ## The beginning of a text -/

/-- The context that the scanner reaches at the end of a text. -/
def Context.after (context : Context) : List Char → Context
  | [] => context
  | char :: rest =>
    let step := Lexeme.Step.next context char rest
    step.context.after step.rest
termination_by text => text.length
decreasing_by
  have := Lexeme.Step.length_rest_next context char rest
  simp only [List.length_cons]
  omega

/-- The text ends outside literals. -/
def EndsOutside (text : String) : Prop :=
  (Context.start.after text.toList).IsOutside

instance (text : String) : Decidable (EndsOutside text) :=
  inferInstanceAs (Decidable (Context.IsOutside _))

/-- A text looks as before with something behind it that stops a word, unless it is empty inside a
literal. -/
theorem alike_append (stops : Stops true more) (outside : text = [] → context.IsOutside) :
    Alike context text (text ++ more) := by
  cases text with
  | nil =>
    exact ⟨fun _ => stops.apart, startsAnnotation_append stops [],
      fun inside => absurd (outside rfl) inside, fun inside => absurd (outside rfl) inside⟩
  | cons first later =>
    exact ⟨id, startsAnnotation_append stops _, fun _ => by simp, fun _ => Iff.rfl⟩

/-- A text that stops as a type does leaves the lexemes before it alone, if it stands outside
literals. -/
theorem all_append (stops : Stops true more) (outside : (context.after text).IsOutside) :
    Lexeme.all context (text ++ more) =
      Lexeme.all context text ++ Lexeme.all (context.after text) more := by
  fun_induction Context.after context text with
  | case1 context => rw [Lexeme.all]; rfl
  | case2 context char rest step ih =>
    have alike : Alike step.context step.rest (step.rest ++ more) := by
      refine alike_append stops fun ended => ?_
      rwa [ended, Context.after] at outside
    have kept (lexeme : Lexeme) : lexeme.renamed ∅ = lexeme.text := by
      rw [Lexeme.renamed_eq, nameOf_of_isIdentity rfl, ite_self]
    have read := all_renamed_append keepsWords_empty char rest (step.rest ++ more) alike
    rw [Lexeme.rename, kept, ← List.append_assoc, Lexeme.Step.next_text, ih outside] at read
    rw [read, all_cons]
    rfl

/-- The scanner reads a beginning that ends outside literals as if nothing followed it. -/
theorem scan_append (stops : Stops true more) (outside : (context.after text).IsOutside) :
    scan bindings context (text ++ more) =
      scan bindings context text ++ scan bindings (context.after text) more := by
  rw [scan, all_append stops outside, List.flatMap_append]
  rfl

end ElementTypings.TypeText
