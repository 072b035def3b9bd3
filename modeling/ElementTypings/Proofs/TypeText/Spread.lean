import ElementTypings.Proofs.TypeText.Lookahead

/-!
# Operands of rest elements

An element of a tuple type may be spread: `...X` stands for the elements of `X`. The scanner knows
dots as the marks before the name of a property only, so it leaves the operand of a rest element
alone, at every nesting and in every layout. The text around the element is renamed as it is around
an ordinary element, and the operand has the name that the bindings give it exactly if they leave
it as it is (`rest_operand_renamed_iff`).
-/

namespace ElementTypings.TypeText

/-- A site for an element in a tuple type, in whatever text: behind the opening bracket or a comma,
and before what may follow a type, as its arguments, `[]`, a comma or the closing bracket. -/
structure ElementSite where
  before : String
  mark : Char
  gap : Blanks
  rest : String
  outside : EndsOutside before
  isMark : mark = '[' ∨ mark = ','
  stops : Stops true rest.toList

namespace ElementSite

/-- The text with an element at the site, between given texts. -/
def around (site : ElementSite) (head tail : String) (element : List Char) : String :=
  head ++ String.ofList (site.mark :: (site.gap.text ++ element)) ++ tail

/-- What stands around an element tells the element. -/
theorem around_injective (site : ElementSite) (head tail : String) :
    Function.Injective (site.around head tail) := by
  intro element other same
  have lists := congrArg String.toList same
  simpa [around] using lists

/-- The text with an element at the site. -/
def text (site : ElementSite) (element : List Char) : String :=
  site.around site.before site.rest element

/-- The text of a site: its mark, blanks and the element between what stands around. -/
theorem toList_text (site : ElementSite) (element : List Char) :
    (site.text element).toList =
      site.before.toList ++ site.mark :: (site.gap.text ++ (element ++ site.rest.toList)) := by
  simp [text, around]

end ElementSite

/-- The rest element with an operand, with white space before the operand. -/
def restElement (space : Blanks) (operand : List Char) : List Char :=
  '.' :: '.' :: '.' :: (space.text ++ operand)

variable {bindings : Bindings} {context : Context} {rest : List Char}

/-- The scanner comes from the mark to the element. -/
private theorem scan_mark_gap (bindings : Bindings) (outside : context.IsOutside) {mark : Char}
    (isMark : mark = '[' ∨ mark = ',') (gap : Blanks) :
    ∃ key, ∀ rest, scan bindings context (mark :: (gap.text ++ rest)) =
      mark :: (gap.text ++ scan bindings (place context.nesting key) rest) := by
  obtain ⟨unquoted, readable⟩ := outside
  obtain ⟨nesting, quote, afterDot, keyPosition⟩ := context
  cases unquoted
  rcases isMark with rfl | rfl
  · refine ⟨false, fun rest => ?_⟩
    rw [← scan_blank readable gap.blank]
    exact scan_mark rfl readable (by decide)
  · refine ⟨nesting.head? == some .braces, fun rest => ?_⟩
    rw [← scan_blank readable gap.blank]
    exact scan_mark rfl readable (by decide)

/-- The operand of a rest element is left as it is. -/
theorem scan_restElement {nesting : List Nesting} {key : Bool} (readable : IsReadable nesting)
    (space : Blanks) (operand : Word) (apart : IsApart rest) :
    scan bindings (place nesting key) (restElement space operand.text ++ rest) =
      restElement space operand.text ++ scan bindings (place nesting false) rest := by
  have dots : scan bindings (place nesting key)
      ('.' :: '.' :: '.' :: (space.text ++ (operand.text ++ rest))) =
        '.' :: '.' :: '.' ::
          scan bindings (dotted nesting) (space.text ++ (operand.text ++ rest)) := by
    rw [scan_dot rfl readable, scan_dot rfl readable, scan_dot rfl readable]
    rfl
  have word : scan bindings (dotted nesting) (operand.text ++ rest) =
      operand.text ++ scan bindings (place nesting false) rest :=
    scan_word (dotted nesting) rfl readable operand apart
  simp only [restElement, List.cons_append, List.append_assoc]
  rw [dots, scan_blanks rfl readable space.blank, word]

/-- An ordinary element is called by its new name. -/
theorem scan_element {nesting : List Nesting} {key : Bool} (readable : IsReadable nesting)
    (operand : Word) (noModifier : operand.text ≠ "readonly".toList) (stops : Stops true rest) :
    scan bindings (place nesting key) (operand.text ++ rest) =
      bindings.nameOf operand.text ++ scan bindings (place nesting false) rest := by
  have unmodified : (operand.text == "readonly".toList) = false :=
    beq_eq_false_iff_ne.mpr noModifier
  have read : scan bindings (place nesting key) (operand.text ++ rest) = _ :=
    scan_word (place nesting key) rfl readable operand stops.apart
  rw [stops.unannotated rfl, unmodified, Bool.and_false] at read
  exact read

theorem restElement_injective (space : Blanks) : Function.Injective (restElement space) := by
  intro operand other same
  simpa [restElement] using same

/-- The text around a site is renamed to the same texts whatever stands at the site, if the scanner
reads that in every nesting and knows nothing of it afterwards. -/
theorem rename_around (site : ElementSite) (bindings : Bindings) :
    ∃ head tail : String, ∀ element written : List Char,
      (∀ nesting key, IsReadable nesting →
        scan bindings (place nesting key) (element ++ site.rest.toList) =
          written ++ scan bindings (place nesting false) site.rest.toList) →
      rename (site.text element) bindings = site.around head tail written := by
  obtain ⟨key, reads⟩ := scan_mark_gap bindings site.outside site.isMark site.gap
  let nesting := (Context.start.after site.before.toList).nesting
  refine ⟨String.ofList (scan bindings .start site.before.toList),
    String.ofList (scan bindings (place nesting false) site.rest.toList), ?_⟩
  intro element written reading
  have stops (text : List Char) : Stops true (site.mark :: text) := by
    rcases site.isMark with same | same
    · rw [same]
      exact stops_mark (by decide) rfl
    · rw [same]
      exact stops_mark (by decide) rfl
  rw [rename_eq_scan, site.toList_text, scan_append (stops _) site.outside, reads,
    reading nesting key site.outside.readable]
  refine String.toList_injective ?_
  simp [ElementSite.around]

/-- **Operands of rest elements keep their names.** The text around an element of a tuple is renamed
alike whether the element is spread or not. An ordinary element is called by its new name; the
operand of a rest element stays as it is, so it is called by its new name exactly if that is its
own. (As an ordinary element, `readonly` would be the modifier of the next type.) -/
theorem rest_operand_renamed_iff (site : ElementSite) (bindings : Bindings) :
    ∃ head tail : String, ∀ (space : Blanks) (operand : Word),
      (operand.text ≠ "readonly".toList →
        rename (site.text operand.text) bindings =
          site.around head tail (bindings.nameOf operand.text)) ∧
      rename (site.text (restElement space operand.text)) bindings =
        site.around head tail (restElement space operand.text) ∧
      (rename (site.text (restElement space operand.text)) bindings =
          site.around head tail (restElement space (bindings.nameOf operand.text)) ↔
        bindings.nameOf operand.text = operand.text) := by
  obtain ⟨head, tail, around⟩ := rename_around site bindings
  refine ⟨head, tail, fun space operand => ?_⟩
  have ordinary (noModifier : operand.text ≠ "readonly".toList) :=
    around operand.text (bindings.nameOf operand.text) fun nesting key readable =>
      scan_element readable operand noModifier site.stops
  have spread := around (restElement space operand.text) _ fun nesting key readable =>
    scan_restElement readable space operand site.stops.apart
  refine ⟨ordinary, spread, ?_⟩
  rw [spread, (site.around_injective head tail).eq_iff, (restElement_injective space).eq_iff]
  exact eq_comm

/-- Bindings that give `Foo` a new name. -/
def fooBindings : Bindings :=
  OrderedMap.ofList [("Foo", "Foo2")]

/-- A site for the last element of a tuple in a placeholder in an object type. -/
def nestedSite : ElementSite where
  before := "\x7b Foo?: \x60$\x7bMap<Foo, [string"
  mark := ','
  gap := .space
  rest := "<Foo>[]]>\x7d\x60 \x7d"
  outside := by decide +kernel
  isMark := .inr rfl
  stops := stops_mark (by decide) rfl

theorem rest_operand_renamed_iff_of_nested :
    Word.foo.text ≠ "readonly".toList ∧
    ∃ head tail,
      rename "\x7b Foo?: \x60$\x7bMap<Foo, [string, Foo<Foo>[]]>\x7d\x60 \x7d" fooBindings =
        nestedSite.around head tail "Foo2".toList ∧
      rename "\x7b Foo?: \x60$\x7bMap<Foo, [string, ...Foo<Foo>[]]>\x7d\x60 \x7d" fooBindings =
        nestedSite.around head tail "...Foo".toList := by
  have noModifier : Word.foo.text ≠ "readonly".toList := by decide
  obtain ⟨head, tail, written⟩ := rest_operand_renamed_iff nestedSite fooBindings
  obtain ⟨ordinary, spread, _⟩ := written .none .foo
  exact ⟨noModifier, head, tail, ordinary noModifier, spread⟩

/-- The operand of a rest element keeps its name where an ordinary element gets the new one. -/
theorem rest_operand_kept :
    rename "[string, Foo[]]" fooBindings = "[string, Foo2[]]" ∧
      rename "[string, ...Foo[]]" fooBindings = "[string, ...Foo[]]" ∧
      rename "[string, ...Foo[]]" fooBindings ≠ "[string, ...Foo2[]]" := by
  have kept : rename "[string, ...Foo[]]" fooBindings = "[string, ...Foo[]]" := by decide +kernel
  refine ⟨by decide +kernel, kept, ?_⟩
  rw [kept]
  decide

end ElementTypings.TypeText
