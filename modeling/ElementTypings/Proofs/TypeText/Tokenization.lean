import ElementTypings.Proofs.TypeText.Lookahead
import ElementTypings.TypeText.Renaming

/-!
# Renaming works on pieces

The lexemes of a text make up the text, those among them that are references are identifiers, and
which they are does not depend on the bindings. Renaming puts the new name of each reference in its
place and keeps everything else (`renaming_is_tokenwise`). This holds of every text, and also if
the renamed text is written in one pass over the characters: that pass finds the names by their
offsets, and `renameOnward_eq` says that it always cuts them out between characters, and that no
name it writes affects what it reads later.
-/

namespace ElementTypings.TypeText

/-- Whether the text is an identifier. -/
def isIdentifier : List Char → Bool
  | [] => false
  | first :: rest => isIdentifierStart first && rest.all isIdentifierContinue

theorem Word.isIdentifier_text (word : Word) : isIdentifier word.text := by
  rw [text, isIdentifier, word.starts, word.continues]
  rfl

/-- Identifiers are the words. -/
theorem isIdentifier_iff {text : List Char} :
    isIdentifier text ↔ ∃ word : Word, text = word.text := by
  constructor
  · intro identifier
    cases text with
    | nil => exact absurd identifier Bool.false_ne_true
    | cons first rest =>
      obtain ⟨starts, continues⟩ := Bool.and_eq_true_iff.mp identifier
      exact ⟨⟨first, rest, starts, continues⟩, rfl⟩
  · rintro ⟨word, rfl⟩
    exact word.isIdentifier_text

variable {bindings : Bindings} {context : Context} {char : Char} {rest : List Char}

/-- What the scan takes as a reference is an identifier. -/
theorem isIdentifier_of_next (context : Context) (char : Char) (rest : List Char)
    (reference : (Lexeme.Step.next context char rest).lexeme.isReference) :
    isIdentifier (Lexeme.Step.next context char rest).lexeme.text := by
  rcases next_cases context char rest with ⟨word, after, rfl, rfl, apart, outside⟩ | verbatim
  · rw [next_word context outside.unquoted outside.readable word apart]
    exact word.isIdentifier_text
  · obtain ⟨tail, after, reached, rfl, reads⟩ := verbatim
    rw [reads after (.refl reached after)] at reference
    exact absurd reference Bool.false_ne_true

/-- References are identifiers. -/
theorem isIdentifier_of_mem_all {lexeme : Lexeme} {text : List Char}
    (member : lexeme ∈ Lexeme.all context text) (reference : lexeme.isReference) :
    isIdentifier lexeme.text := by
  fun_induction Lexeme.all context text with
  | case1 => exact absurd member List.not_mem_nil
  | case2 context char rest step ih =>
    rcases List.mem_cons.mp member with rfl | later
    · exact isIdentifier_of_next context char rest reference
    · exact ih later

/-! ## One pass -/

/-- A name is kept behind a dot and as a key, and is looked up elsewhere. -/
theorem writtenName_eq (bindings : Bindings) (context : Context) (name after : List Char) :
    writtenName bindings context name after =
      if context.afterDot || (context.keyPosition && Lexeme.startsAnnotation after) then name
      else bindings.nameOf name := by
  unfold writtenName Bindings.nameOf
  cases bindings.lookup? (String.ofList name) <;> cases context.afterDot <;>
    cases context.keyPosition && Lexeme.startsAnnotation after <;> rfl

/-- A name that stands behind `before` is cut out by the offsets at its ends. -/
private theorem cut_word (before : List Char) {after : List Char} {word : Word}
    (apart : IsApart after) :
    let text := before ++ word.first :: (word.rest ++ after)
    let stop := identifierEnd (Text.Cursor.size before) word.first (word.rest ++ after)
    Text.slice? text (Text.Cursor.size before) stop = some word.text ∧
      Text.dropBytes? stop text = some after ∧ stop = Text.Cursor.size (before ++ word.text) := by
  intro text stop
  have whole : text = before ++ (word.text ++ after) := rfl
  have place : stop = Text.Cursor.size before + Text.Cursor.size word.text := by
    rw [Word.text, Text.size_cons, ← Nat.add_assoc, ← word.takeWhile_append apart]
    rfl
  have behind : stop = Text.Cursor.size (before ++ word.text) := by
    rw [place, Text.size_append]
  refine ⟨?_, ?_, behind⟩
  · rw [whole, place, Text.slice?_size]
  · rw [whole, behind, ← List.append_assoc, Text.dropBytes?_size]

section Onward

open Lexeme.Step

variable {text written before : List Char} {offset : Nat}

/-- Reading on behind a piece that is taken as it is. -/
private theorem onward_verbatim {taken after : List Char} {reached : Context}
    (step : next context char rest = ⟨.verbatim taken, reached, after⟩)
    (onward : ∀ before, text = before ++ after → offset = Text.Cursor.size before →
      renameOnward text bindings reached (written ++ taken) offset after =
        some (written ++ taken ++ scan bindings reached after))
    (whole : text = before ++ char :: rest)
    (place : offset = Text.Cursor.size before + Text.Cursor.size taken) :
    renameOnward text bindings reached (written ++ taken) offset after =
      some (written ++ scan bindings context (char :: rest)) := by
  have split : taken ++ after = char :: rest := by
    have split := next_text context char rest
    rwa [step] at split
  rw [onward (before ++ taken), scan_verbatim step, List.append_assoc]
  · rw [whole, ← split, List.append_assoc]
  · rw [place, Text.size_append]

/-- A backslash at the end of the text is taken as it is. -/
private theorem onward_backslash (step : next context '\\' [] = ⟨.verbatim ['\\'], context, []⟩) :
    some (written ++ ['\\']) = some (written ++ scan bindings context ['\\']) := by
  rw [scan_verbatim step, scan_nil, List.append_nil]

/-- The offset moves on by the bytes of both characters. -/
private theorem pair_place {first second : Char} (reached : offset = Text.Cursor.size before) :
    offset + first.utf8Size + second.utf8Size =
      Text.Cursor.size before + Text.Cursor.size [first, second] := by
  rw [reached, Nat.add_assoc]
  rfl

/-- Reading on behind `before` writes what the scanner writes for the rest. -/
theorem renameOnward_eq (whole : text = before ++ rest)
    (reached : offset = Text.Cursor.size before) :
    renameOnward text bindings context written offset rest =
      some (written ++ scan bindings context rest) := by
  fun_induction renameOnward text bindings context written offset rest generalizing before with
  | case1 => rw [scan_nil, List.append_nil]
  | case2 context written offset quote quoted =>
    exact onward_backslash (by simp [next, quoted, inString, escape])
  | case3 context written offset quote quoted escaped rest onward =>
    refine onward_verbatim (by simp [next, quoted, inString, escape]) (fun _ => onward) whole ?_
    exact pair_place reached
  | case4 context written offset rest quote quoted noBackslash onward =>
    refine onward_verbatim (by simp [next, quoted, inString, noBackslash]) (fun _ => onward)
      whole ?_
    exact congrArg (· + quote.utf8Size) reached
  | case5 context written offset char rest quote quoted noBackslash noQuote onward =>
    refine onward_verbatim (by simp [next, quoted, inString, noBackslash, noQuote])
      (fun _ => onward) whole ?_
    exact congrArg (· + char.utf8Size) reached
  | case6 context written offset unquoted template =>
    exact onward_backslash (by simp [next, unquoted, template, inTemplate, escape])
  | case7 context written offset unquoted template escaped rest onward =>
    refine onward_verbatim (by simp [next, unquoted, template, inTemplate, escape])
      (fun _ => onward) whole ?_
    exact pair_place reached
  | case8 context written offset unquoted template rest onward =>
    refine onward_verbatim (by simp [next, unquoted, template, inTemplate]) (fun _ => onward)
      whole ?_
    exact congrArg (· + '\x60'.utf8Size) reached
  | case9 context written offset unquoted template rest onward =>
    refine onward_verbatim (by simp [next, unquoted, template, inTemplate])
      (fun _ => onward) whole ?_
    exact pair_place reached
  | case10 context written offset unquoted template char rest dangling escapes closes opens
      onward =>
    have step : next context char rest = ⟨.verbatim [char], context, rest⟩ := by
      simp only [next, unquoted, template, if_true]
      exact inTemplate.eq_4 context char rest (ne_backslash dangling escapes) closes opens
    refine onward_verbatim step (fun _ => onward) whole ?_
    exact congrArg (· + char.utf8Size) reached
  | case11 context written offset char rest unquoted readable starts name after behind cut
      onward =>
    obtain ⟨word, later, rfl, rfl, apart⟩ := exists_word starts rest
    obtain ⟨named, followed, place⟩ := cut_word before apart
    rw [whole, reached, named] at cut
    rw [whole, reached, followed] at behind
    cases cut
    cases behind
    rw [word.dropWhile_append apart] at onward ⊢
    have read : scan bindings context (word.first :: (word.rest ++ after)) = _ :=
      scan_word context unquoted readable word apart
    have split : text = (before ++ word.text) ++ after := by
      rw [whole, List.append_assoc]
      rfl
    rw [onward split (by rw [reached, place]), read, writtenName_eq, unquoted, List.append_assoc]
    rfl
  | case12 context written offset char rest unquoted readable starts uncut =>
    obtain ⟨word, later, rfl, rfl, apart⟩ := exists_word starts rest
    obtain ⟨named, followed, place⟩ := cut_word before apart
    rw [whole, reached] at uncut
    exact (uncut _ _ named followed).elim
  | case13 context written offset char rest unquoted readable mark onward =>
    refine onward_verbatim (next_mark unquoted readable (by simpa using mark) rest)
      (fun _ => onward) whole ?_
    exact congrArg (· + char.utf8Size) reached

end Onward

/-- The pass ends with a result, the renamed text. -/
theorem renameInOnePass_eq (text : String) (bindings : Bindings) :
    renameInOnePass text bindings = some (rename text bindings) := by
  unfold renameInOnePass
  split
  · next identity => rw [rename, if_pos identity]
  · have read : renameOnward text.toList bindings .start [] 0 text.toList =
        some ([] ++ scan bindings .start text.toList) :=
      renameOnward_eq (List.nil_append text.toList).symm rfl
    rw [read, rename_eq_scan, List.nil_append]
    rfl

/-- **Renaming works on pieces.** The pieces of a text make it up, and those that are references
are identifiers. Whatever the bindings, the renamed text consists of the same pieces with the bound
names in place of the references that are bound, and one pass over the text finds it. -/
theorem renaming_is_tokenwise (text : String) :
    (lexemes text).flatMap Lexeme.text = text.toList ∧
    (∀ lexeme ∈ lexemes text, lexeme.isReference → isIdentifier lexeme.text) ∧
    ∀ bindings : Bindings,
      renameInOnePass text bindings = some (rename text bindings) ∧
      rename text bindings = String.ofList ((lexemes text).flatMap fun lexeme =>
        if lexeme.isReference then bindings.nameOf lexeme.text else lexeme.text) := by
  refine ⟨Lexeme.flatMap_text_all _ _, fun lexeme => isIdentifier_of_mem_all, fun bindings => ?_⟩
  exact ⟨renameInOnePass_eq text bindings, rename_eq text bindings⟩

/-- A text with a brace too many, a name beyond ASCII and a string that does not end, under bindings
that exchange two names. -/
theorem renaming_is_tokenwise_of_malformed :
    let text := "\x7d Größe<\x7b Foo: Bar | Foo \x7d> & 'Foo\\"
    let bindings : Bindings := OrderedMap.ofList [("Größe", "Foo"), ("Foo", "Größe")]
    { text := "Größe".toList, isReference := true : Lexeme } ∈ lexemes text ∧
      isIdentifier "Größe".toList ∧
      renameInOnePass text bindings =
        some "\x7d Foo<\x7b Foo: Bar | Größe \x7d> & 'Foo\\" := by
  intro text bindings
  obtain ⟨_, identifiers, renamed⟩ := renaming_is_tokenwise text
  have member : { text := "Größe".toList, isReference := true : Lexeme } ∈ lexemes text := by
    decide +kernel
  refine ⟨member, identifiers _ member rfl, ?_⟩
  rw [(renamed bindings).1]
  decide +kernel

end ElementTypings.TypeText
