import ElementTypings.Proofs.TypeText.Lookahead

/-!
# Literals are opaque

What stands in a string or in a template without placeholders has no effect on the rest of a type
text: the text before the literal and the text behind it are renamed in the same way whatever the
literal holds (`literals_opaque`). The scanner takes the contents as they are, and behind the
literal it knows only what surrounds the literal.
-/

namespace ElementTypings.TypeText

/-- The marks that a literal stands between. -/
inductive Delimiter where
  | single
  | double
  | backtick
deriving DecidableEq

namespace Delimiter

def char : Delimiter → Char
  | .single => '\''
  | .double => '"'
  | .backtick => '\x60'

/-- Whether a delimiter right behind the contents ends the literal, and none inside does; a
backslash takes the character after it along. A template must not open a placeholder. -/
def encloses (delimiter : Delimiter) (contents : List Char) : Bool :=
  match delimiter with
  | .single | .double => isQuotedText delimiter.char contents
  | .backtick => isTemplateText contents

/-- The literal with the contents. -/
def literal (delimiter : Delimiter) (contents : String) : String :=
  String.singleton delimiter.char ++ contents ++ String.singleton delimiter.char

/-- A literal is its contents between two delimiters. -/
theorem toList_literal (delimiter : Delimiter) (contents : String) :
    (delimiter.literal contents).toList =
      delimiter.char :: (contents.toList ++ [delimiter.char]) := by
  simp [literal]

/-- A delimiter stops any word before it. -/
theorem stops (delimiter : Delimiter) (rest : List Char) : Stops true (delimiter.char :: rest) := by
  cases delimiter with
  | single => exact stops_mark (by decide) rfl
  | double => exact stops_mark (by decide) rfl
  | backtick => exact stops_mark (by decide) rfl

end Delimiter

variable {bindings : Bindings} {context : Context} {rest : List Char}

/-- The scanner takes a literal as it is and reads on as if it had just begun. -/
theorem scan_delimited (outside : context.IsOutside) {delimiter : Delimiter}
    {contents : List Char} (enclosed : delimiter.encloses contents) :
    scan bindings context (delimiter.char :: (contents ++ delimiter.char :: rest)) =
      delimiter.char :: (contents ++ delimiter.char ::
        scan bindings (place context.nesting false) rest) := by
  have quoted (quote : Char) (isQuote : quote = '\'' ∨ quote = '"')
      (closed : isQuotedText quote contents) :
      scan bindings context (quote :: (contents ++ quote :: rest)) =
        quote :: (contents ++ quote :: scan bindings (place context.nesting false) rest) := by
    let string : StringLiteral := ⟨quote, contents, isQuote, closed⟩
    have read : scan bindings context (string.written ++ rest) =
        string.written ++ scan bindings (place context.nesting false) rest :=
      scan_literal outside.unquoted outside.readable string
    simpa only [string, StringLiteral.written, List.append_assoc, List.cons_append, List.nil_append]
      using read
  cases delimiter with
  | single => exact quoted '\'' (.inl rfl) enclosed
  | double => exact quoted '"' (.inr rfl) enclosed
  | backtick =>
    have apart : ('\x60' :: rest).head? ≠ some '{' := by simp
    rw [Delimiter.char, scan_openingBacktick outside.unquoted outside.readable,
      scan_templateText enclosed apart, scan_closingBacktick]

/-- **Literals are opaque.** What the text before a literal and the text behind it are renamed to
does not depend on the contents of the literal, which stay as they are. -/
theorem literals_opaque {before : String} (outside : EndsOutside before) (delimiter : Delimiter)
    (rest : String) (bindings : Bindings) :
    ∃ head tail : String, ∀ contents : String, delimiter.encloses contents.toList →
      rename (before ++ delimiter.literal contents ++ rest) bindings =
        head ++ delimiter.literal contents ++ tail := by
  let reached := Context.start.after before.toList
  refine ⟨String.ofList (scan bindings .start before.toList),
    String.ofList (scan bindings (place reached.nesting false) rest.toList), ?_⟩
  intro contents enclosed
  have split : (before ++ delimiter.literal contents ++ rest).toList =
      before.toList ++ delimiter.char :: (contents.toList ++ delimiter.char :: rest.toList) := by
    simp [Delimiter.toList_literal]
  have read : scan bindings .start (before.toList ++
      delimiter.char :: (contents.toList ++ delimiter.char :: rest.toList)) = _ :=
    scan_append (delimiter.stops _) outside
  rw [scan_delimited outside enclosed] at read
  rw [rename_eq_scan, split, read]
  refine String.toList_injective ?_
  simp [Delimiter.toList_literal, reached]

/-- A string in a placeholder in an object type. The contents of the first one would close both,
begin strings and hold a bound name. -/
theorem literals_opaque_of_nested :
    let before := "\x7b Foo: \x60$\x7bFoo extends "
    let rest := " ? Bar : never\x7d\x60; Bar: Foo \x7d"
    let bindings : Bindings := OrderedMap.ofList [("Foo", "Bar"), ("Bar", "Foo")]
    let contents := ".Foo\x7d\x60\x7d ?: '\\\" \x7b"
    EndsOutside before ∧ Delimiter.double.encloses contents.toList ∧
      ∃ head tail,
        rename (before ++ Delimiter.double.literal contents ++ rest) bindings =
          head ++ Delimiter.double.literal contents ++ tail ∧
        rename (before ++ Delimiter.double.literal "" ++ rest) bindings =
          head ++ Delimiter.double.literal "" ++ tail := by
  intro before rest bindings contents
  have outside : EndsOutside before := by decide +kernel
  have enclosed : Delimiter.double.encloses contents.toList := by decide +kernel
  obtain ⟨head, tail, written⟩ := literals_opaque outside .double rest bindings
  exact ⟨outside, enclosed, head, tail, written contents enclosed, written "" rfl⟩

end ElementTypings.TypeText
