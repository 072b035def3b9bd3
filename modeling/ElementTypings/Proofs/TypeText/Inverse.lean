import ElementTypings.Proofs.OrderedMap.Lookup
import ElementTypings.Proofs.TypeText.Tokenization

/-!
# Undoing a renaming

The scanner sees as much of a new name as of the old one, so it finds in a renamed text the lexemes
of the text itself, renamed and in the same roles (`all_scan`). If different names have different
new names, and no new name is the own name of another reference, then the inverse bindings give
every reference its old name back (`rename_rename_inverse`).
-/

namespace ElementTypings.TypeText

variable {bindings : Bindings} {context : Context} {text : List Char}

/-! ## Reading a renamed text -/

/-- A renamed text begins as the text does, or both begin with an identifier. -/
theorem head?_scan (keeps : bindings.KeepsWords) (context : Context) (text : List Char) :
    (scan bindings context text).head? = text.head? ∨
      ∃ first renamed, text.head? = some first ∧ isIdentifierStart first ∧
        (scan bindings context text).head? = some renamed ∧ isIdentifierStart renamed := by
  cases text with
  | nil => exact .inl (by rw [scan_nil])
  | cons char rest =>
    rcases next_cases context char rest with ⟨word, after, rfl, rfl, apart, outside⟩ | verbatim
    · right
      rw [scan_cons, next_word context outside.unquoted outside.readable word apart]
      obtain ⟨renamed, isWord, _⟩ := keeps.exists_renamed word
        (!context.afterDot && !(context.keyPosition && Lexeme.startsAnnotation after))
      rw [isWord]
      exact ⟨word.first, renamed.first, rfl, word.starts, rfl, renamed.starts⟩
    · obtain ⟨tail, after, reached, rfl, reads⟩ := verbatim
      left
      rw [scan_verbatim (reads after (.refl reached after))]
      rfl

/-- A mark stands first after the renaming exactly if it did before. -/
theorem head?_scan_iff (keeps : bindings.KeepsWords) {mark : Char}
    (noName : isIdentifierStart mark = false) (context : Context) (text : List Char) :
    (scan bindings context text).head? = some mark ↔ text.head? = some mark := by
  have other {char : Char} (starts : isIdentifierStart char) : char ≠ mark := by
    rintro rfl
    exact Bool.false_ne_true (noName.symm.trans starts)
  rcases head?_scan keeps context text with same | ⟨first, renamed, begins, starts, written, named⟩
  · rw [same]
  · rw [begins, written]
    simp [other starts, other named]

/-- An annotation starts in a renamed text where one starts in the text. -/
theorem startsAnnotation_scan (keeps : bindings.KeepsWords) (context : Context)
    (text : List Char) :
    Lexeme.startsAnnotation (scan bindings context text) = Lexeme.startsAnnotation text := by
  fun_induction Lexeme.all context text with
  | case1 => rw [scan_nil]
  | case2 context char rest step ih =>
    rcases next_cases context char rest with ⟨word, after, rfl, rfl, apart, outside⟩ | verbatim
    · rw [scan_cons, next_word context outside.unquoted outside.readable word apart]
      obtain ⟨renamed, isWord, _⟩ := keeps.exists_renamed word
        (!context.afterDot && !(context.keyPosition && Lexeme.startsAnnotation after))
      rw [isWord, startsAnnotation_word]
      exact (startsAnnotation_word word after).symm
    · obtain ⟨tail, after, reached, rfl, reads⟩ := verbatim
      have here : step = ⟨.verbatim (char :: tail), reached, after⟩ :=
        reads after (.refl reached after)
      rw [here] at ih
      rw [scan_verbatim here]
      exact startsAnnotation_append_congr ih (head?_scan_iff keeps (by decide) _ _) (char :: tail)

/-- Renaming a text leaves it alike. -/
theorem alike_scan (keeps : bindings.KeepsWords) (context : Context) (text : List Char) :
    Alike context text (scan bindings context text) where
  apart apart first found := by
    rcases head?_scan keeps context text with same | ⟨first, _, begins, starts, _, _⟩
    · exact apart _ (same ▸ found)
    · have continues := isIdentifierContinue_of_isIdentifierStart starts
      rw [apart first begins] at continues
      exact absurd continues Bool.false_ne_true
  annotation := startsAnnotation_scan keeps context text
  ends_iff _ := by
    rw [← List.head?_eq_none_iff, ← List.head?_eq_none_iff]
    rcases head?_scan keeps context text with same | ⟨_, _, begins, _, written, _⟩
    · rw [same]
    · simp [begins, written]
  brace_iff _ := head?_scan_iff keeps (by decide) context text

/-- The lexemes of a renamed text are those of the text under their new names. -/
theorem all_scan (keeps : bindings.KeepsWords) (context : Context) (text : List Char) :
    Lexeme.all context (scan bindings context text) =
      (Lexeme.all context text).map (Lexeme.rename bindings) := by
  fun_induction Lexeme.all context text with
  | case1 => rw [scan_nil, Lexeme.all]; rfl
  | case2 context char rest step ih =>
    rw [scan_cons, all_renamed_append keeps char rest _ (alike_scan keeps _ _), ih]
    rfl

/-! ## The inverse bindings -/

/-- Bindings that can be undone on some texts: they bind different names to different names, which
are identifiers, and have nothing to do with `readonly`. -/
structure Bindings.IsInvertible (bindings : Bindings) : Prop where
  injective : bindings.values.Nodup
  key_ne : "readonly" ∉ bindings.keys
  bound_ne : "readonly" ∉ bindings.values
  isIdentifier : ∀ bound ∈ bindings.values, isIdentifier bound.toList

/-- The bindings that lead back from the new names to the old ones. -/
def Bindings.inverse (bindings : Bindings) (invertible : bindings.IsInvertible) : Bindings where
  entries := bindings.entries.map Prod.swap
  keys_nodup := by
    have swapped : Prod.fst ∘ Prod.swap = (Prod.snd : String × String → String) := rfl
    rw [List.map_map, swapped]
    exact invertible.injective

/-- No new name is the own name of another reference of the text. -/
def Bindings.IsFreshFor (bindings : Bindings) (text : String) : Prop :=
  ∀ lexeme ∈ lexemes text, lexeme.isReference →
    String.ofList lexeme.text ∈ bindings.keys ∨ String.ofList lexeme.text ∉ bindings.values

instance (bindings : Bindings) (text : String) : Decidable (bindings.IsFreshFor text) :=
  inferInstanceAs (Decidable (∀ lexeme ∈ lexemes text, _ → _))

namespace Bindings.IsInvertible

/-- Bindings that can be undone keep words words. -/
theorem keepsWords (invertible : bindings.IsInvertible) : bindings.KeepsWords := by
  have named (word : Word) : bindings.nameOf word.text = word.text ∨
      (word.text ≠ "readonly".toList ∧ bindings.nameOf word.text ≠ "readonly".toList ∧
        ∃ renamed : Word, bindings.nameOf word.text = renamed.text) := by
    rcases nameOf_cases bindings word.text with ⟨_, own⟩ | ⟨bound, entry, name⟩
    · exact .inl own
    · have key : String.ofList word.text ∈ bindings.keys := List.mem_map_of_mem entry
      have value : bound ∈ bindings.values := List.mem_map_of_mem entry
      rw [name]
      refine .inr ⟨fun same => ?_, fun same => ?_, isIdentifier_iff.mp
        (invertible.isIdentifier bound value)⟩
      · rw [same] at key
        exact invertible.key_ne key
      · rw [String.toList_injective same] at value
        exact invertible.bound_ne value
  constructor
  · intro word
    rcases named word with own | ⟨_, _, renamed⟩
    · exact ⟨word, own⟩
    · exact renamed
  · intro word
    rcases named word with own | ⟨other, different, _⟩
    · rw [own]
    · exact iff_of_false different other

/-- The inverse bindings lead back from the name of a word to the word, unless they take the word
itself for a new name. -/
theorem nameOf_inverse (invertible : bindings.IsInvertible) {word : List Char}
    (fresh : String.ofList word ∈ bindings.keys ∨ String.ofList word ∉ bindings.values) :
    (bindings.inverse invertible).nameOf (bindings.nameOf word) = word := by
  rcases nameOf_cases bindings word with ⟨unbound, own⟩ | ⟨bound, entry, name⟩
  · have keys : (bindings.inverse invertible).keys = bindings.values :=
      List.map_map
    rw [own]
    refine nameOf_of_not_mem_keys ?_
    rw [keys]
    exact fresh.resolve_left unbound
  · have back : (bound, String.ofList word) ∈ (bindings.inverse invertible).entries :=
      List.mem_map.mpr ⟨_, entry, rfl⟩
    rw [name, nameOf_of_mem back, String.toList_ofList]

end Bindings.IsInvertible

/-- The lexemes of a renamed text are those of the text under their new names. -/
theorem lexemes_rename (invertible : bindings.IsInvertible) (text : String) :
    lexemes (rename text bindings) = (lexemes text).map (Lexeme.rename bindings) := by
  rw [rename_eq_scan, lexemes, String.toList_ofList]
  exact all_scan invertible.keepsWords .start text.toList

/-- Renaming back restores the text. -/
theorem rename_rename_inverse (invertible : bindings.IsInvertible) {text : String}
    (fresh : bindings.IsFreshFor text) :
    rename (rename text bindings) (bindings.inverse invertible) = text := by
  have restored : ∀ lexeme ∈ lexemes text,
      (lexeme.rename bindings).renamed (bindings.inverse invertible) = lexeme.text := by
    intro lexeme member
    rw [Lexeme.renamed_eq]
    cases reference : lexeme.isReference with
    | false => simp [Lexeme.rename, Lexeme.renamed_eq, reference]
    | true =>
      have back := invertible.nameOf_inverse (fresh lexeme member reference)
      simpa [Lexeme.rename, Lexeme.renamed_eq, reference] using back
  calc rename (rename text bindings) (bindings.inverse invertible)
      = String.ofList ((lexemes (rename text bindings)).flatMap
          (Lexeme.renamed (bindings.inverse invertible))) := rename_eq _ _
    _ = String.ofList ((lexemes text).flatMap Lexeme.text) := by
        rw [lexemes_rename invertible, List.flatMap_map, List.flatMap_congr restored]
    _ = text := by
        rw [lexemes, Lexeme.flatMap_text_all, String.ofList_toList]

/-- **Renaming can be undone.** If the bindings are invertible and no new name is the own name of
another reference of the text, then the inverse bindings restore the text from the renamed one. The
renamed text has the same lexemes in the same roles, but for the names of the references, and no
other such text is renamed to it. -/
theorem renaming_undone (invertible : bindings.IsInvertible) {text : String}
    (fresh : bindings.IsFreshFor text) :
    rename (rename text bindings) (bindings.inverse invertible) = text ∧
      lexemes (rename text bindings) = (lexemes text).map (Lexeme.rename bindings) ∧
      ∀ other, bindings.IsFreshFor other → rename other bindings = rename text bindings →
        other = text := by
  refine ⟨rename_rename_inverse invertible fresh, lexemes_rename invertible text, ?_⟩
  intro other otherFresh same
  calc other = rename (rename other bindings) (bindings.inverse invertible) :=
        (rename_rename_inverse invertible otherFresh).symm
    _ = rename (rename text bindings) (bindings.inverse invertible) := by rw [same]
    _ = text := rename_rename_inverse invertible fresh

/-- New names of which one was the old name of another reference. -/
def shiftedBindings : Bindings :=
  OrderedMap.ofList [("Foo", "Foo2"), ("Bar", "Foo")]

theorem isInvertible_shiftedBindings : shiftedBindings.IsInvertible :=
  ⟨by decide, by decide, by decide, by decide +kernel⟩

/-- A text in which dollar signs belong to a name and to a placeholder. -/
theorem renaming_undone_of_shifted :
    let text := "\x7b readonly Foo?: Foo[]; $Foo$: Ns . Foo, Bar: \x60Foo$$\x7bBar | $\x7d\x60 \x7d"
    let renamed :=
      "\x7b readonly Foo?: Foo2[]; $Foo$: Ns . Foo, Bar: \x60Foo$$\x7bFoo | $\x7d\x60 \x7d"
    shiftedBindings.IsFreshFor text ∧ rename text shiftedBindings = renamed ∧
      rename renamed (shiftedBindings.inverse isInvertible_shiftedBindings) = text := by
  intro text renamed
  have fresh : shiftedBindings.IsFreshFor text := by decide +kernel
  have written : rename text shiftedBindings = renamed := by decide +kernel
  refine ⟨fresh, written, ?_⟩
  rw [← written]
  exact (renaming_undone isInvertible_shiftedBindings fresh).1

end ElementTypings.TypeText
