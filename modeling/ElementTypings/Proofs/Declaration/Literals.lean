import ElementTypings.Declaration.Syntax
import ElementTypings.Proofs.Declaration.StringLiteral
import ElementTypings.Proofs.Layout.Writing

/-!
# The literals of a document

An import names its module between single quotes, and an interface has a key between double quotes
where the name is no identifier. The text between the quotes is the name as it is. It is read back
exactly if it has neither the quote nor a backslash nor the end of a line
(`literals_read_back_iff`).
-/

namespace ElementTypings

open StringLiteral (IsPlain value)

/-! ### Property keys -/

namespace Property

/-- Reads the key of a property: a string literal, or an identifier. -/
def readKey : List Char → Option (List Nat × List Char)
  | [] => none
  | first :: later =>
    if first = '"' ∨ first = '\'' then StringLiteral.read first .start later
    else if isKeyStart first then
      some (value (first :: later.takeWhile isKeyContinue), later.dropWhile isKeyContinue)
    else none

/-- What stands behind the key. -/
def behindKey (property : Property) : String :=
  (if property.optional then "?" else "") ++ ": " ++ property.type ++ ";"

/-- A property is written as its key and what stands behind the key. -/
theorem text_eq (property : Property) :
    property.text = key property.name ++ property.behindKey := by
  simp only [text, behindKey, String.append_assoc]

/-- No character of an identifier follows the key. -/
theorem exists_behindKey (property : Property) :
    ∃ first later, property.behindKey.toList = first :: later ∧ isKeyContinue first = false := by
  unfold behindKey
  cases property.optional with
  | true => exact ⟨'?', ':' :: ' ' :: (property.type.toList ++ [';']), by simp, by decide⟩
  | false => exact ⟨':', ' ' :: (property.type.toList ++ [';']), by simp, by decide⟩

/-- A key that is an identifier is read back up to the character behind it. -/
theorem readKey_of_isBareKey {property : Property} (bare : isBareKey property.name) :
    readKey property.text.toList =
      some (value property.name.toList, property.behindKey.toList) := by
  obtain ⟨next, behind, ends, other⟩ := property.exists_behindKey
  rw [text_eq, key, if_pos bare, String.toList_append, ends]
  unfold isBareKey at bare
  split at bare
  · cases bare
  · next first later letters =>
    obtain ⟨starts, continues⟩ := Bool.and_eq_true_iff.mp bare
    have letter : ¬ (first = '"' ∨ first = '\'') := by
      rintro (rfl | rfl) <;> cases starts
    rw [letters, List.cons_append, readKey, if_neg letter, if_pos starts,
      List.takeWhile_append_of_pos (List.all_eq_true.mp continues),
      List.dropWhile_append_of_pos (List.all_eq_true.mp continues),
      List.takeWhile_cons_of_neg (by simp [other]), List.dropWhile_cons_of_neg (by simp [other]),
      List.append_nil]

/-- Any other key is read back exactly if each of its characters is plain between double quotes. -/
theorem readKey_of_not_isBareKey_iff {property : Property} (quoted : ¬ isBareKey property.name) :
    readKey property.text.toList =
        some (value property.name.toList, property.behindKey.toList) ↔
      ∀ char ∈ property.name.toList, IsPlain '"' char := by
  have text : property.text.toList =
      '"' :: (property.name.toList ++ '"' :: property.behindKey.toList) := by
    rw [text_eq, key, if_neg quoted]
    simp
  rw [text, readKey, if_pos (Or.inl rfl)]
  exact StringLiteral.read_quoted_iff (by decide) _ _

end Property

/-! ### Modules of imports -/

namespace ImportStatement

/-- What stands before the module. -/
def opening (statement : ImportStatement) : String :=
  if statement.specifiers.isEmpty then "import "
  else if statement.multiline then
    "import \x7b\n" ++
      String.join (statement.specifiers.map fun specifier => "  " ++ specifier.text ++ ",\n") ++
      "\x7d from "
  else
    "import \x7b " ++ ", ".intercalate (statement.specifiers.map ImportSpecifier.text) ++
      " \x7d from "

/-- A statement ends with its module between quotes. -/
theorem text_eq (statement : ImportStatement) :
    (Declaration.importStatement statement).text =
      statement.opening ++ "'" ++ statement.module ++ "';\n" := by
  have unit : Indent.standard.unit = "  " := rfl
  unfold Declaration.text Declaration.fragments fragments opening
  by_cases effect : statement.specifiers.isEmpty
  · rw [if_pos effect, if_pos effect, Fragment.render_line]
    simp only [String.append_assoc]
    rfl
  · rw [if_neg effect, if_neg effect]
    by_cases multiline : statement.multiline
    · -- The names are the body of a block, so they are indented by one unit.
      have names : LaidLine.written .standard 0
            (statement.specifiers.map fun specifier => .indented 1 (specifier.text ++ ",")) =
          String.join
            (statement.specifiers.map fun specifier => "  " ++ specifier.text ++ ",\n") := by
        simp [LaidLine.written, LaidLine.text, unit, Function.comp_def, String.append_assoc]
      rw [if_pos multiline, if_pos multiline, Fragment.render_eq, Fragment.allLinesAt,
        Fragment.allLinesAt, Fragment.linesAt, Fragment.allLinesAt_lines, List.append_nil,
        List.cons_append, LaidLine.written_cons, LaidLine.written_append, names,
        Option.toList_some, List.map_singleton, LaidLine.written_cons, LaidLine.written_nil]
      simp only [LaidLine.text, String.append_empty, String.append_assoc]
      rfl
    · rw [if_neg multiline, if_neg multiline, Fragment.render_line]
      simp only [String.append_assoc]
      rfl

end ImportStatement

/-- **Literals are read back** as the texts that they were made of, for every module of an import
and every name of a property, exactly if these have no character that ends the literal or starts an
escape: the quote, a backslash or the end of a line. The name of a property that is an identifier is
read back in any case. -/
theorem literals_read_back_iff (statement : ImportStatement) (property : Property) :
    ((Declaration.importStatement statement).text =
        statement.opening ++ "'" ++ statement.module ++ "';\n" ∧
      (StringLiteral.read '\'' .start (statement.module ++ "';\n").toList =
          some (value statement.module.toList, [';', '\n']) ↔
        ∀ char ∈ statement.module.toList, IsPlain '\'' char)) ∧
    (Property.readKey property.text.toList =
        some (value property.name.toList, property.behindKey.toList) ↔
      Property.isBareKey property.name ∨ ∀ char ∈ property.name.toList, IsPlain '"' char) := by
  constructor
  · have closed : (statement.module ++ "';\n").toList =
        statement.module.toList ++ '\'' :: [';', '\n'] := String.toList_append
    rw [closed]
    exact ⟨statement.text_eq, StringLiteral.read_quoted_iff (by decide) _ _⟩
  · by_cases bare : Property.isBareKey property.name
    · exact iff_of_true (Property.readKey_of_isBareKey bare) (Or.inl bare)
    · rw [Property.readKey_of_not_isBareKey_iff bare, or_iff_right bare]

/-- The apostrophe in the name of a directory ends the module of an import, and a quote in the name
of a member ends its key. -/
theorem literals_cut_short :
    (Declaration.importStatement
        { module := "./it's/x"
          specifiers := [.binding "XEl" "XEl"]
          multiline := false }).text = "import \x7b XEl \x7d from './it's/x';\n" ∧
      StringLiteral.read '\'' .start "./it's/x';\n".toList =
        some (value "./it".toList, "s/x';\n".toList) ∧
      StringLiteral.read '\'' .start "./it's/x';\n".toList ≠
        some (value "./it's/x".toList, [';', '\n']) ∧
      Property.text { name := "a\"b\\c", type := "string", optional := true } =
        "\"a\"b\\c\"?: string;" ∧
      Property.readKey "\"a\"b\\c\"?: string;".toList =
        some (value "a".toList, "b\\c\"?: string;".toList) := by
  decide +kernel

end ElementTypings
