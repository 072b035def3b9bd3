import ElementTypings.Proofs.OrderedMap.Lookup
import ElementTypings.Proofs.TypeText.ExpressionScan
import Mathlib.Algebra.Order.BigOperators.Group.List
import Mathlib.Algebra.Order.Group.Nat

/-!
# Names of members

The names of members are no references, but the scanner knows a name for one only where it finds it
behind a visible mark and before a colon or `?:`. These are keys; a method, a member on a line of
its own, or a question mark that stands apart from its colon hides the name, and if the name is
bound it is replaced. So all bindings keep the names of members exactly if the expression has only
keys (`member_names_kept_iff`).
-/

namespace ElementTypings.TypeText

/-- What the words of a type expression are written as if the names of members stay and the other
words are what the scanner makes of them. -/
def Bindings.kept (bindings : Bindings) : Naming :=
  { bindings.scanned with
    word := fun role name =>
      match role with
      | .member _ => name.text
      | _ => bindings.scanned.word role name }

/-- Whether the piece is not the name of a member, or is a key. -/
def Piece.isKeyIfMember : Piece → Bool
  | .word (.member form) _ => form.isKey
  | _ => true

/-- Whether the members of the object types in the expression, at any depth, are keys. -/
def TypeExpression.hasOnlyKeys (type : TypeExpression) : Bool :=
  type.pieces.all Piece.isKeyIfMember

variable {bindings : Bindings} {type : TypeExpression}

/-- Bindings that leave the members other than keys alone keep the names of all members. -/
theorem rename_keeps_members
    (unmoved : ∀ form name, .word (.member form) name ∈ type.pieces →
      form.isKey ∨ bindings.nameOf name.text = name.text) :
    rename type.text bindings = type.written bindings.kept := by
  have same (role : Role) (name : Word) (member : .word role name ∈ type.pieces) :
      bindings.scanned.word role name = bindings.kept.word role name := by
    cases role with
    | reference => rfl
    | path => rfl
    | parameter form => rfl
    | member form =>
      rcases unmoved form name member with isKey | still
      · simp [Bindings.scanned, Bindings.kept, Role.isRead, isKey]
      · simp [Bindings.scanned, Bindings.kept, still]
  exact (type.rename_text bindings).trans (TypeExpression.written_congr rfl same)

/-- Bindings that make one name longer. -/
def Bindings.suffixed (name : List Char) : Bindings :=
  OrderedMap.insert ∅ (String.ofList name) (String.ofList (name ++ ['2']))

theorem nameOf_suffixed (name word : List Char) :
    (Bindings.suffixed name).nameOf word = if word = name then name ++ ['2'] else word := by
  rw [Bindings.nameOf, Bindings.suffixed, OrderedMap.lookup?_insert]
  by_cases same : word = name
  · simp [same]
  · have other : String.ofList word ≠ String.ofList name := fun equal =>
      same (String.ofList_injective equal)
    simp [same, other]

/-- Bindings that make a name longer make no piece shorter. -/
private theorem length_kept_le (name : List Char) (piece : Piece) :
    (piece.text (Bindings.suffixed name).kept).length ≤
      (piece.text (Bindings.suffixed name).scanned).length := by
  match piece with
  | .verbatim _ | .keyword _ | .word .reference _ | .word .path _ | .word (.parameter _) _ =>
    exact le_refl _
  | .word (.member form) word =>
    simp only [Piece.text, Bindings.kept, Bindings.scanned, nameOf_suffixed]
    split
    · split
      · next same => simp [same]
      · exact le_refl _
    · exact le_refl _

/-- Bindings that make the name of a member longer make the text longer unless it is a key. -/
private theorem length_kept_lt {form : MemberForm} {name : Word} (hidden : form.isKey = false)
    (member : .word (.member form) name ∈ type.pieces) :
    (write (Bindings.suffixed name.text).kept type.pieces).length <
      (write (Bindings.suffixed name.text).scanned type.pieces).length := by
  rw [write, write, List.length_flatMap, List.length_flatMap]
  refine List.sum_lt_sum _ _ (fun piece _ => length_kept_le name.text piece) ⟨_, member, ?_⟩
  simp [Piece.text, Bindings.kept, Bindings.scanned, Role.isRead, hidden, nameOf_suffixed]

/-- **When the names of members stay.** Renaming the text of an expression leaves the names of its
members as they are, whatever the bindings, exactly if its members are keys: properties behind an
opening brace, a semicolon or a comma, with a colon or `?:` behind the name. -/
theorem member_names_kept_iff (type : TypeExpression) :
    (∀ bindings, rename type.text bindings = type.written bindings.kept) ↔ type.hasOnlyKeys := by
  constructor
  · intro kept
    refine List.all_eq_true.mpr fun piece member => ?_
    match piece with
    | .verbatim _ | .keyword _ | .word .reference _ | .word .path _ | .word (.parameter _) _ =>
      rfl
    | .word (.member form) name =>
      by_contra hidden
      have longer := length_kept_lt (Bool.eq_false_of_not_eq_true hidden) member
      have same := (type.rename_text (.suffixed name.text)).symm.trans (kept _)
      rw [String.ofList_injective same] at longer
      exact lt_irrefl _ longer
  · intro keys bindings
    refine rename_keeps_members fun form name member => .inl ?_
    exact List.all_eq_true.mp keys _ member

namespace TypeExpression

/-- An object type with a divided question mark, a method and a member on a line of its own. -/
def misread : TypeExpression :=
  let foo : Word := .foo
  let bar : Word := .bar
  let baz : Word := .baz
  let item : Word := { first := 'i', rest := "tem".toList }
  let colon : Colon := ⟨.none, .space⟩
  let name : Word → TypeExpression := fun word => .named word [] []
  .object .space (.property false foo ⟨some .none, ⟨.space, .space⟩⟩ (name foo))
    [(⟨.none, .semicolon, .space⟩,
        .method bar .none [(⟨false, item, ⟨none, colon⟩⟩, name foo)] colon (name bar)),
      (⟨.none, .lineBreak, { text := [' ', ' '] }⟩, .property false baz ⟨none, colon⟩ (name baz))]
    (.blanks .space)

end TypeExpression

/-- A bound name is replaced where it names a member before a question mark that stands apart from
its colon, a method, or a member on a line of its own. -/
theorem member_names_replaced :
    let bindings : Bindings := OrderedMap.ofList [("Foo", "Foo2"), ("Bar", "Bar2"), ("Baz", "Baz2")]
    TypeExpression.misread.text =
        "\x7b Foo? : Foo; Bar(item: Foo): Bar\n  Baz: Baz \x7d" ∧
      TypeExpression.misread.written bindings.kept =
        "\x7b Foo? : Foo2; Bar(item: Foo2): Bar2\n  Baz: Baz2 \x7d" ∧
      rename TypeExpression.misread.text bindings =
        "\x7b Foo2? : Foo2; Bar2(item: Foo2): Bar2\n  Baz2: Baz2 \x7d" ∧
      rename TypeExpression.misread.text bindings ≠
        TypeExpression.misread.written bindings.kept := by
  intro bindings
  have scanned := TypeExpression.misread.rename_text bindings
  refine ⟨by decide +kernel, by decide +kernel, ?_, ?_⟩
  · rw [scanned]
    decide +kernel
  · rw [scanned]
    decide +kernel

end ElementTypings.TypeText
