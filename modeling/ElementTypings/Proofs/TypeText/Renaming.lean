import ElementTypings.Proofs.OrderedMap.Lookup
import ElementTypings.TypeText.Renaming

/-!
# Renaming, lexeme by lexeme

Bindings that bind every name to itself leave a text as it is, so `rename` gives every reference
among the lexemes its new name in any case (`rename_eq`). All that it asks of the bindings are the
new names of words, in whatever order they are listed (`rename_congr`).
-/

namespace ElementTypings.TypeText

/-- What a word is called under the bindings. -/
def Bindings.nameOf (bindings : Bindings) (word : List Char) : List Char :=
  match bindings.lookup? (String.ofList word) with
  | some bound => bound.toList
  | none => word

variable {bindings others : Bindings}

theorem Lexeme.renamed_eq (bindings : Bindings) (lexeme : Lexeme) :
    lexeme.renamed bindings =
      if lexeme.isReference then bindings.nameOf lexeme.text else lexeme.text := rfl

/-- A word without a binding keeps its name. -/
theorem nameOf_of_not_mem_keys {word : List Char} (unbound : String.ofList word ∉ bindings.keys) :
    bindings.nameOf word = word := by
  rw [Bindings.nameOf, OrderedMap.lookup?_eq_none_iff.mpr unbound]

/-- A word keeps its name or has the one that an entry gives it. -/
theorem nameOf_cases (bindings : Bindings) (word : List Char) :
    (String.ofList word ∉ bindings.keys ∧ bindings.nameOf word = word) ∨
      ∃ bound, (String.ofList word, bound) ∈ bindings.entries ∧
        bindings.nameOf word = bound.toList := by
  unfold Bindings.nameOf
  cases found : bindings.lookup? (String.ofList word) with
  | none => exact .inl ⟨OrderedMap.lookup?_eq_none_iff.mp found, rfl⟩
  | some bound => exact .inr ⟨bound, OrderedMap.lookup?_eq_some_iff.mp found, rfl⟩

theorem nameOf_of_mem {name bound : String} (entry : (name, bound) ∈ bindings.entries) :
    bindings.nameOf name.toList = bound.toList := by
  rw [Bindings.nameOf, String.ofList_toList, OrderedMap.lookup?_eq_some_iff.mpr entry]

/-- Bindings of names to themselves rename nothing. -/
theorem nameOf_of_isIdentity (identity : isIdentity bindings) (word : List Char) :
    bindings.nameOf word = word := by
  rcases nameOf_cases bindings word with ⟨_, own⟩ | ⟨bound, entry, name⟩
  · exact own
  · have same : String.ofList word = bound := eq_of_beq (List.all_eq_true.mp identity _ entry)
    rw [name, ← same, String.toList_ofList]

/-- Renaming calls every reference of the text by its new name. -/
theorem rename_eq (text : String) (bindings : Bindings) :
    rename text bindings = String.ofList ((lexemes text).flatMap (Lexeme.renamed bindings)) := by
  unfold rename
  split
  · next identity =>
    have kept : Lexeme.renamed bindings = Lexeme.text := by
      funext lexeme
      rw [Lexeme.renamed_eq, nameOf_of_isIdentity identity, ite_self]
    rw [kept, lexemes, Lexeme.flatMap_text_all, String.ofList_toList]
  · rfl

/-- Bindings that give every name the same new name rename alike. -/
theorem rename_congr (same : ∀ name, bindings.lookup? name = others.lookup? name)
    (text : String) : rename text bindings = rename text others := by
  have renamed : Lexeme.renamed bindings = Lexeme.renamed others := by
    funext lexeme
    rw [Lexeme.renamed_eq, Lexeme.renamed_eq, Bindings.nameOf, Bindings.nameOf, same]
  rw [rename_eq, rename_eq, renamed]

end ElementTypings.TypeText
