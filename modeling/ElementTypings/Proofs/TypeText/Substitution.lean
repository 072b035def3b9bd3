import ElementTypings.Proofs.OrderedMap.Lookup
import ElementTypings.Proofs.TypeText.ExpressionScan

/-!
# Renaming as substitution

The expressions whose object types hold properties only, each of them behind a visible mark and
with its colon or `?:` in one piece, are those that the scanner reads as they are meant. On their
texts renaming is substitution: the references get their new names, all at once, and the rest of
the text is the same (`rename_substitutes`).
-/

namespace ElementTypings.TypeText

/-- What the words of a type expression are written as if new names are put for its references. -/
def Bindings.substituted (bindings : Bindings) : Naming :=
  { Naming.own with
    word := fun role name =>
      match role with
      | .reference => bindings.nameOf name.text
      | _ => name.text }

/-- Whether the scanner takes the piece as it is meant: a name of a member as a key. The name of a
parameter it may take for a reference. -/
def Piece.isPlain : Piece → Bool
  | .word (.member form) _ => form.isKey
  | .word (.parameter _) _ => false
  | .word .reference _ | .word .path _ | .verbatim _ | .keyword _ => true

/-- Whether the object types in the expression, at any depth, have properties only, written as
`key: T` or `key?: T` behind an opening brace, a semicolon or a comma. -/
def TypeExpression.isPlain (type : TypeExpression) : Bool :=
  type.pieces.all Piece.isPlain

variable {bindings : Bindings} {type : TypeExpression}

/-- **Renaming substitutes.** Renaming the text of a plain expression writes the expression with new
names for its references, and with the names of its members, the names behind dots and the literals
as they were. -/
theorem rename_substitutes (plain : type.isPlain)
    (keywords : "readonly" ∉ bindings.keys ∧ "extends" ∉ bindings.keys) :
    rename type.text bindings = type.written bindings.substituted := by
  have fixed : bindings.scanned.keyword = bindings.substituted.keyword := by
    funext keyword
    match keyword with
    | .readonly => exact nameOf_of_not_mem_keys keywords.1
    | .extends => exact nameOf_of_not_mem_keys keywords.2
  have same (role : Role) (name : Word) (member : .word role name ∈ type.pieces) :
      bindings.scanned.word role name = bindings.substituted.word role name := by
    have meant := List.all_eq_true.mp plain _ member
    cases role with
    | reference => rfl
    | path => rfl
    | member form =>
      have isKey : form.isKey = true := meant
      simp [Bindings.scanned, Bindings.substituted, Role.isRead, isKey]
    | parameter form => exact absurd meant Bool.false_ne_true
  exact (type.rename_text bindings).trans (TypeExpression.written_congr fixed same)

/-! A type in which most of what makes the scanner's task hard comes together. -/

namespace TypeExpression

/-- An object type with a conditional type inside. Its keys, strings, template texts and names
behind dots are names of references as well. -/
def crowded : TypeExpression :=
  let foo : Word := .foo
  let bar : Word := .bar
  let map : Word := { first := 'M', rest := ['a', 'p'] }
  let required : Ascription := ⟨none, ⟨.none, .space⟩⟩
  let optional : Ascription := ⟨some .none, ⟨.none, .space⟩⟩
  let name : Word → TypeExpression := fun word => .named word [] []
  let pair : TypeExpression := .object .space (.property false foo required (name bar))
    [(⟨.none, .comma, .space⟩, .property false bar required (name foo))] (.blanks .space)
  let quoted : StringLiteral := { quote := '"', text := "a\\\" Foo".toList }
  let key : StringLiteral := { quote := '\'', text := "Foo".toList }
  let template : TypeExpression := .template { text := "Foo-".toList }
    [(.union (name foo) (.indexed (.parenthesized pair) key), { text := "\x7bBar\x7d".toList })]
  .object .space
    (.property true foo optional (.named map [] [name foo, .array (.named bar [foo] [])]))
    [(⟨.none, .semicolon, .space⟩, .property false bar required
      (.conditional (name foo) pair (.tuple [name foo, .literal quoted]) template))]
    (.blanks .space)

/-- The text of the crowded type with the names `foo` and `bar` for its references. -/
def crowdedText (foo bar : String) : String :=
  String.join ["\x7b readonly Foo?: Map<", foo, ", ", bar, ".Foo[]>; Bar: ", foo,
    " extends \x7b Foo: ", bar, ", Bar: ", foo, " \x7d ? [", foo, ", \"a\\\" Foo\"] : \x60Foo-",
    "$\x7b", foo, " | (\x7b Foo: ", bar, ", Bar: ", foo, " \x7d)['Foo']\x7d\x7bBar\x7d\x60 \x7d"]

end TypeExpression

/-- New names of which one was the old name of another reference. -/
def crowdedBindings : Bindings :=
  OrderedMap.ofList [("Foo", "Foo2"), ("Bar", "Foo"), ("a", "b")]

theorem rename_substitutes_of_crowded :
    TypeExpression.crowded.isPlain ∧
    ("readonly" ∉ crowdedBindings.keys ∧ "extends" ∉ crowdedBindings.keys) ∧
    rename (TypeExpression.crowdedText "Foo" "Bar") crowdedBindings =
      TypeExpression.crowdedText "Foo2" "Foo" := by
  have plain : TypeExpression.crowded.isPlain := by decide +kernel
  have keywords : "readonly" ∉ crowdedBindings.keys ∧ "extends" ∉ crowdedBindings.keys := by
    decide
  have text : TypeExpression.crowded.text = TypeExpression.crowdedText "Foo" "Bar" := by
    decide +kernel
  have substituted : TypeExpression.crowded.written crowdedBindings.substituted =
      TypeExpression.crowdedText "Foo2" "Foo" := by
    decide +kernel
  refine ⟨plain, keywords, ?_⟩
  rw [← text, rename_substitutes plain keywords, substituted]

end ElementTypings.TypeText
