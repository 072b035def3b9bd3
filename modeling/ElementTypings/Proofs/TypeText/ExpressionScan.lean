import ElementTypings.Proofs.TypeText.Pieces
import Mathlib.Data.List.Basic

/-!
# The scanner on type expressions

The scanner knows nothing of trees, but on the text of a type expression it decides by the role of
a word alone whether the word gets its new name (`TypeExpression.rename_text`). The proof follows
the tree: what the scanner makes of an expression depends on its surroundings only in whether a key
may stand at its beginning and in how the text goes on behind it, so `TypeExpression.reads` is an
induction in which both are arbitrary.
-/

namespace ElementTypings.TypeText

variable {bindings : Bindings} {nesting : List Nesting} {key : Bool} {rest : List Char}

/-- No type begins like an annotation. -/
theorem TypeExpression.startsAnnotation_text : ∀ (type : TypeExpression) (rest : List Char),
    Lexeme.startsAnnotation (write .own type.pieces ++ rest) = false
  | .named head path arguments, rest => by
    rw [pieces, write_cons]
    exact startsAnnotation_word head _
  | .union left right, rest => by
    rw [pieces, write_append]
    exact startsAnnotation_text left _
  | .array element, rest => by
    rw [pieces, write_append]
    exact startsAnnotation_text element _
  | .indexed container key, rest => by
    rw [pieces, write_append]
    exact startsAnnotation_text container _
  | .conditional check bound positive negative, rest => by
    rw [pieces, write_append]
    exact startsAnnotation_text check _
  | .literal string, rest => by
    obtain ⟨quote, text, isQuote, closed⟩ := string
    rcases isQuote with rfl | rfl <;> rfl
  | .parenthesized _, _ | .tuple _, _ | .template _ _, _ | .emptyObject _, _
  | .object _ _ _ _, _ => rfl

/-- The names behind a dot stop a word before them, unless there are none. -/
private theorem stops_path (path : List Word) (stops : Stops key rest) :
    Stops key (write .own (pathPieces path) ++ rest) := by
  cases path with
  | nil => exact stops
  | cons => exact stops_mark (by decide) rfl

/-- A path of names is read as it is written. -/
private theorem reads_path (readable : IsReadable nesting) (path : List Word)
    (apart : IsApart rest) : Reads bindings nesting key (pathPieces path) rest := by
  induction path generalizing key with
  | nil => exact .nil
  | cons name path ih =>
    have later : IsApart (write .own (pathPieces path) ++ rest) :=
      (stops_path path (stops_of_apart apart)).apart
    have first : Scans bindings (place nesting key) [.verbatim ['.'], .word .path name]
        (place nesting false) (write .own (pathPieces path) ++ rest) :=
      .cons (.dot rfl readable) (.word rfl readable later rfl)
    have others : Reads bindings nesting false (pathPieces path) rest := ih
    exact ⟨false, nofun, first.append others.scans⟩

/-- The rest of a list stops a word before it, since a comma or nothing comes first. -/
private theorem stops_list (types : List TypeExpression) (stops : ∀ key, Stops key rest) :
    Stops key (write .own (listPieces false types) ++ rest) := by
  cases types with
  | nil => exact stops key
  | cons => exact stops_mark (by decide) rfl

private theorem stops_arguments (arguments : List TypeExpression) (stops : Stops key rest) :
    Stops key (write .own (argumentPieces arguments) ++ rest) := by
  cases arguments with
  | nil => exact stops
  | cons => exact stops_mark (by decide) rfl

private theorem isApart_others (others : List (Separator × Member)) (apart : IsApart rest) :
    IsApart (write .own (otherPieces others) ++ rest) := by
  cases others with
  | nil => exact apart
  | cons other others =>
    rw [otherPieces, write_cons]
    exact isApart_separator other.1

private theorem isApart_parameters (parameters : List (ParameterName × TypeExpression))
    (apart : IsApart rest) : IsApart (write .own (parameterPieces false parameters) ++ rest) := by
  cases parameters with
  | nil => exact apart
  | cons => exact isApart_cons (by decide)

/-- Inside an object type, a key may stand behind a separator that can be seen. -/
private theorem scans_separator (separator : Separator) :
    Scans bindings (place (.braces :: nesting) false) [.verbatim separator.text]
      (place (.braces :: nesting) separator.isVisible) rest := by
  have inside := isReadable_braces nesting
  obtain ⟨before, mark, after⟩ := separator
  have plain : isPlainMark mark.char := by
    cases mark <;> decide
  have reached : keyAfter (.braces :: nesting) false mark.char = (mark != .lineBreak) := by
    cases mark <;> rfl
  refine .verbatim ?_
  rw [Separator.text, List.append_assoc, List.append_assoc, scan_blank inside before.blank,
    List.cons_append, scan_plainMark inside plain, scan_blank inside after.blank, reached]
  rfl

/-- However its members end, a closing is scanned as it is written. -/
private theorem scans_closing (closing : Closing) :
    ∃ left, Scans bindings (place (.braces :: nesting) false) [.verbatim closing.text]
      (place (.braces :: nesting) left) rest := by
  cases closing with
  | blanks inside => exact ⟨false, .blanks (isReadable_braces nesting) inside⟩
  | separator last => exact ⟨last.isVisible, scans_separator last⟩

/-- The spans of a template do not start with a brace. -/
private theorem head_spans (spans : List (TypeExpression × TemplateText))
    (apart : rest.head? ≠ some '{') :
    (write .own (spanPieces spans) ++ rest).head? ≠ some '{' := by
  cases spans with
  | nil => exact apart
  | cons => exact fun same => absurd (Option.some.inj same) (by decide)

mutual

/-- The scanner reads a type expression. -/
theorem TypeExpression.reads : ∀ (type : TypeExpression) {nesting : List Nesting} {key : Bool}
    {rest : List Char}, IsReadable nesting → Stops key rest →
    Reads bindings nesting key type.pieces rest
  | .named head path arguments, nesting, key, rest, readable, stops => by
    have argued := stops_arguments arguments stops
    refine .cons (.word readable rfl head ?_) fun _ =>
      .append (reads_path readable path argued.apart) fun _ =>
        reads_arguments arguments readable
    rw [write_append]
    exact stops_path path argued
  | .union left right, nesting, key, rest, readable, stops => by
    have second := (right.reads readable (stops_of_apart stops.apart)).scans
    exact .append (left.reads readable (stops_mark (by decide) rfl)) fun _ =>
      ⟨false, nofun, .cons (.marks readable (by decide) rfl) second⟩
  | .parenthesized inner, nesting, key, rest, readable, stops => by
    have inner : Reads bindings nesting false inner.pieces (')' :: rest) :=
      inner.reads readable (stops_mark (by decide) rfl)
    exact ⟨false, nofun, .cons (.marks readable (by decide) rfl)
      (.append inner.scans (.marks readable (by decide) rfl))⟩
  | .array element, nesting, key, rest, readable, stops =>
    .append (element.reads readable (stops_mark (by decide) rfl)) fun _ =>
      ⟨false, nofun, .marks readable (by decide) rfl⟩
  | .indexed container index, nesting, key, rest, readable, stops =>
    .append (container.reads readable (stops_mark (by decide) rfl)) fun _ =>
      ⟨false, nofun, .cons (.marks readable (by decide) rfl)
        (.cons (.literal readable index) (.marks readable (by decide) rfl))⟩
  | .tuple elements, nesting, key, rest, readable, stops => by
    have items : ∃ left, Scans bindings (place nesting false) (listPieces true elements)
        (place nesting left) (']' :: rest) :=
      scans_list elements true readable fun _ => stops_mark (by decide) rfl
    obtain ⟨_, items⟩ := items
    exact ⟨false, nofun, .cons (.marks readable (by decide) rfl)
      (.append items (.marks readable (by decide) rfl))⟩
  | .literal string, nesting, key, rest, readable, stops =>
    ⟨false, nofun, .literal readable string⟩
  | .template start spans, nesting, key, rest, readable, stops => by
    have closed : ('\x60' :: rest).head? ≠ some '{' :=
      fun same => absurd (Option.some.inj same) (by decide)
    have apart : (write .own (spanPieces spans ++ [.verbatim ['\x60']]) ++ rest).head? ≠
        some '{' := by
      rw [write_append]
      exact head_spans spans closed
    exact ⟨false, nofun, .cons (.verbatim (scan_openingBacktick rfl readable))
      (.cons (.verbatim (scan_templateText start.literal apart))
        (.append (scans_spans spans closed) (.verbatim scan_closingBacktick)))⟩
  | .conditional check bound positive negative, nesting, key, rest, readable, stops => by
    -- A key may stand where `extends` does if the type before it is one word in a list, but no type
    -- begins like an annotation.
    have unannotated : Lexeme.startsAnnotation
        (write .own (bound.pieces ++ .verbatim [' ', '?', ' '] ::
          (positive.pieces ++ .verbatim [' ', ':', ' '] :: negative.pieces)) ++ rest) = false := by
      rw [write_append]
      exact bound.startsAnnotation_text _
    have branches : Scans bindings (place nesting false)
        (positive.pieces ++ .verbatim [' ', ':', ' '] :: negative.pieces) (place nesting false)
        rest :=
      .append (positive.reads readable (stops_of_apart (isApart_cons (by decide)))).scans
        (.cons (.marks readable (by decide) rfl)
          (negative.reads readable (stops_of_apart stops.apart)).scans)
    exact .append (check.reads readable (stops_mark (by decide) rfl)) fun _ =>
      .cons (.space readable) fun _ =>
        .cons (.keyword readable .extends (isApart_cons (by decide)) unannotated)
          fun _ => .cons (.space readable) fun _ =>
            .append (bound.reads readable (stops_mark (by decide) rfl)) fun _ =>
              ⟨false, nofun, .cons (.marks readable (by decide) rfl) branches⟩
  | .emptyObject inside, nesting, key, rest, readable, stops =>
    ⟨false, nofun, .cons (.verbatim (scan_openingBrace readable))
      (.cons (.blanks (isReadable_braces nesting) inside) (.verbatim scan_closingBrace))⟩
  | .object opening first others closing, nesting, key, rest, readable, stops => by
    have closed : IsApart (write .own [.verbatim closing.text, .verbatim ['}']] ++ rest) := by
      rw [write_cons]
      exact isApart_closing closing (isApart_cons (by decide))
    have apart : IsApart (write .own (otherPieces others ++
        [.verbatim closing.text, .verbatim ['}']]) ++ rest) := by
      rw [write_append]
      exact isApart_others others closed
    obtain ⟨_, ended⟩ := scans_closing closing
    exact ⟨false, nofun, .cons (.verbatim (scan_openingBrace readable))
      (.cons (.blanks (isReadable_braces nesting) opening)
        (.append (first.scans true apart)
          (.append (scans_others others closed) (.cons ended (.verbatim scan_closingBrace)))))⟩

/-- The arguments of a type are read as they are written. -/
theorem reads_arguments : ∀ (arguments : List TypeExpression) {nesting : List Nesting}
    {key : Bool} {rest : List Char}, IsReadable nesting →
    Reads bindings nesting key (argumentPieces arguments) rest
  | [], _, _, _, _ => .nil
  | type :: types, nesting, key, rest, readable => by
    have items : ∃ left, Scans bindings (place nesting false) (listPieces false types)
        (place nesting left) ('>' :: rest) :=
      scans_list types false readable fun _ => stops_mark (by decide) rfl
    have apart : IsApart (write .own (listPieces false types ++ [.verbatim ['>']]) ++ rest) := by
      rw [write_append]
      exact (stops_list types fun _ => stops_mark (by decide) rfl : Stops false _).apart
    obtain ⟨_, items⟩ := items
    exact ⟨false, nofun, .cons (.marks readable (by decide) rfl)
      (.append (type.reads readable (stops_of_apart apart)).scans
        (.append items (.marks readable (by decide) rfl)))⟩

/-- A list of types is scanned piece by piece. -/
theorem scans_list : ∀ (types : List TypeExpression) (isFirst : Bool) {nesting : List Nesting}
    {key : Bool} {rest : List Char}, IsReadable nesting → (∀ key, Stops key rest) →
    ∃ left, Scans bindings (place nesting key) (listPieces isFirst types) (place nesting left) rest
  | [], _, _, key, _, _, _ => ⟨key, .nil⟩
  | type :: types, isFirst, nesting, key, rest, readable, stops => by
    -- A comma in an object type makes room for a key even if it belongs to a list inside.
    have items (key : Bool) : ∃ left, Scans bindings (place nesting key)
        (type.pieces ++ listPieces false types) (place nesting left) rest := by
      obtain ⟨between, _, one⟩ := type.reads readable (stops_list types stops)
      obtain ⟨left, others⟩ := scans_list types false readable stops
      exact ⟨left, one.append others⟩
    cases isFirst with
    | true => exact items key
    | false =>
      obtain ⟨left, scanned⟩ := items (nesting.head? == some .braces)
      exact ⟨left, .cons (.marks readable (by decide) rfl) scanned⟩

/-- The spans of a template are scanned piece by piece, each back inside the template. -/
theorem scans_spans : ∀ (spans : List (TypeExpression × TemplateText)) {nesting : List Nesting}
    {rest : List Char}, rest.head? ≠ some '{' →
    Scans bindings (place (.template :: nesting) false) (spanPieces spans)
      (place (.template :: nesting) false) rest
  | [], _, _, _ => .nil
  | (type, text) :: spans, nesting, rest, apart => by
    have readable := isReadable_placeholder (.template :: nesting)
    exact .cons (.verbatim scan_openingPlaceholder)
      (.append (type.reads readable (stops_of_apart (isApart_cons (by decide)))).scans
        (.cons (.verbatim scan_closingPlaceholder)
          (.cons (.verbatim (scan_templateText text.literal (head_spans spans apart)))
            (scans_spans spans apart))))

/-- Further members are scanned piece by piece. -/
theorem scans_others : ∀ (others : List (Separator × Member)) {nesting : List Nesting}
    {rest : List Char}, IsApart rest →
    Scans bindings (place (.braces :: nesting) false) (otherPieces others)
      (place (.braces :: nesting) false) rest
  | [], _, _, _ => .nil
  | (separator, member) :: others, _, _, apart =>
    .cons (scans_separator separator)
      (.append (member.scans separator.isVisible (isApart_others others apart))
        (scans_others others apart))

/-- A member of an object type is scanned piece by piece, its name as a key. -/
theorem Member.scans : ∀ (member : Member) (marked : Bool) {nesting : List Nesting}
    {rest : List Char}, IsApart rest →
    Scans bindings (place (.braces :: nesting) marked) (member.pieces marked)
      (place (.braces :: nesting) false) rest
  | .property readonly name ascription type, marked, nesting, rest, apart => by
    have inside := isReadable_braces nesting
    have named : Scans bindings (place (.braces :: nesting) marked)
        (.word (.member ⟨marked, ascription⟩) name :: .verbatim ascription.text :: type.pieces)
        (place (.braces :: nesting) false) rest := by
      refine .cons (.word rfl inside ?_ ?_)
        (.cons (.ascription inside ascription) (type.reads inside (stops_of_apart apart)).scans)
      · rw [write_cons]
        exact isApart_ascription ascription
      · rw [write_cons]
        exact congrArg (fun direct => !(marked && direct))
          (startsAnnotation_ascription ascription _).symm
    -- The name behind `readonly` starts no annotation, so the place stays one for a key.
    cases readonly with
    | false => exact named
    | true =>
      refine .append (.readonly inside ?_) named
      rw [write_cons]
      exact startsAnnotation_word name _
  | .method name gap parameters colon result, marked, nesting, rest, apart => by
    have inside := isReadable_braces nesting
    refine .cons (.word rfl inside ?_ ?_) (.cons (.blanks inside gap)
      (.cons (.marks inside (by decide) rfl) (.append (scans_parameters parameters true ?_)
        (.cons (.marks inside (by decide) rfl) (.cons (.colon inside colon)
          (result.reads inside (stops_of_apart apart)).scans)))))
    · rw [write_cons]
      exact isApart_blanks gap (isApart_cons (by decide))
    · -- A parenthesis is no annotation, so the name of a method is never a key.
      rw [write_cons]
      simp only [Piece.text, startsAnnotation_blanks]
      rfl
    · exact isApart_cons (by decide)

/-- The parameters of a function type are scanned piece by piece. -/
theorem scans_parameters : ∀ (parameters : List (ParameterName × TypeExpression))
    (isFirst : Bool) {nesting : List Nesting} {rest : List Char}, IsApart rest →
    Scans bindings (place (.braces :: nesting) false) (parameterPieces isFirst parameters)
      (place (.braces :: nesting) false) rest
  | [], _, _, _, _ => .nil
  | (parameter, type) :: parameters, isFirst, nesting, rest, apart => by
    have inside := isReadable_braces nesting
    -- Behind the comma before a parameter the scanner expects a member of the object type.
    have typed : Scans bindings (place (.braces :: nesting) false)
        (type.pieces ++ parameterPieces false parameters) (place (.braces :: nesting) false) rest :=
      .append (type.reads inside (stops_of_apart (isApart_parameters parameters apart))).scans
        (scans_parameters parameters false apart)
    obtain ⟨spread, name, ascription⟩ := parameter
    have named : Scans bindings (place (.braces :: nesting) (!isFirst))
        ((if spread then [.verbatim ['.', '.', '.']] else []) ++
          .word (.parameter ⟨isFirst, spread, ascription⟩) name ::
            .verbatim ascription.text :: (type.pieces ++ parameterPieces false parameters))
        (place (.braces :: nesting) false) rest := by
      have apart : IsApart (write .own (.verbatim ascription.text ::
          (type.pieces ++ parameterPieces false parameters)) ++ rest) := by
        rw [write_cons]
        exact isApart_ascription ascription
      cases spread with
      | true =>
        exact .cons (.spread inside) (.cons (.word rfl inside apart rfl)
          (.cons (.ascription inside ascription) typed))
      | false =>
        refine .cons (.word rfl inside apart ?_) (.cons (.ascription inside ascription) typed)
        rw [write_cons]
        simp only [Piece.text, startsAnnotation_ascription]
        cases isFirst <;> rfl
    cases isFirst with
    | true => exact named
    | false => exact .cons (.marks inside (by decide) rfl) named

end

/-- Renaming a type expression gives their new names to the words that the scanner reads, and to
no others. -/
theorem TypeExpression.rename_text (type : TypeExpression) (bindings : Bindings) :
    rename type.text bindings = type.written bindings.scanned := by
  have outside : IsReadable [] := nofun
  have ended : IsApart [] := nofun
  have read : Scans bindings (place [] false) type.pieces (place [] false) [] :=
    (type.reads outside (stops_of_apart ended)).scans
  rw [Scans, scan_nil, List.append_nil, List.append_nil] at read
  rw [rename_eq_scan, text, written, String.toList_ofList, written, ← read]
  rfl

/-- Namings that agree on the words of an expression write it alike. -/
theorem TypeExpression.written_congr {type : TypeExpression} {naming other : Naming}
    (keywords : naming.keyword = other.keyword)
    (words : ∀ role name, .word role name ∈ type.pieces →
      naming.word role name = other.word role name) :
    type.written naming = type.written other := by
  refine congrArg String.ofList (List.flatMap_congr fun piece member => ?_)
  cases piece with
  | verbatim text => rfl
  | keyword fixed => exact congrFun keywords fixed
  | word role name => exact words role name member

end ElementTypings.TypeText
