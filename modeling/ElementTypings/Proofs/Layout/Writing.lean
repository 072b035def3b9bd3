import ElementTypings.Layout

/-!
# What writing appends

A fragment is a list of lines, each at the depth of the blocks around it (`Fragment.linesAt`), and
writing it appends these lines to the text, indented from the level of the builder, and does nothing
else (`Builder.fragment_eq`). Steps of writing that follow one another append what each of them
appends, while the level walks up and down and never falls below zero
(`writing_concatenates`).
-/

namespace ElementTypings

/-! ### Lines -/

/-- A line of a layout. -/
inductive LaidLine where
  /-- Text inside so many blocks. -/
  | indented (depth : Nat) (text : String)
  /-- An empty line. -/
  | blank
deriving DecidableEq, Repr

namespace LaidLine

/-- The line with its end, in a layout that starts at the given level. -/
def text (indent : Indent) (level : Nat) : LaidLine → String
  | indented depth text => String.join (List.replicate (level + depth) indent.unit) ++ text ++ "\n"
  | blank => "\n"

/-- The text of some lines. -/
def written (indent : Indent) (level : Nat) (lines : List LaidLine) : String :=
  String.join (lines.map (text indent level))

variable (indent : Indent) (level : Nat)

@[simp]
theorem written_nil : written indent level [] = "" :=
  String.join_nil

@[simp]
theorem written_cons (line : LaidLine) (later : List LaidLine) :
    written indent level (line :: later) = line.text indent level ++ written indent level later :=
  String.join_cons

@[simp]
theorem written_append (first later : List LaidLine) :
    written indent level (first ++ later) =
      written indent level first ++ written indent level later := by
  rw [written, List.map_append, String.join_append, ← written, ← written]

end LaidLine

open LaidLine (written)

namespace Fragment

mutual

/-- The lines of a fragment that stands inside so many blocks. Only a block adds to the depth, and
only to that of its body. -/
def linesAt (depth : Nat) : Fragment → List LaidLine
  | .line text => [.indented depth text]
  | .blank => [.blank]
  | .block header body close =>
    .indented depth header :: allLinesAt (depth + 1) body ++ close.toList.map (.indented depth)
  | .sequence items => allLinesAt depth items
  | .comment texts => (commentLines texts).map (.indented depth)

/-- The lines of fragments one after another. -/
def allLinesAt (depth : Nat) : List Fragment → List LaidLine
  | [] => []
  | first :: later => first.linesAt depth ++ allLinesAt depth later

end

theorem allLinesAt_append (depth : Nat) (first later : List Fragment) :
    allLinesAt depth (first ++ later) = allLinesAt depth first ++ allLinesAt depth later := by
  induction first with
  | nil => rfl
  | cons item rest ih => rw [List.cons_append, allLinesAt, allLinesAt, ih, List.append_assoc]

/-- Lines that are laid out one for each item. -/
theorem allLinesAt_lines {Item : Type} (depth : Nat) (text : Item → String) (items : List Item) :
    allLinesAt depth (items.map fun item => .line (text item)) =
      items.map fun item => .indented depth (text item) := by
  induction items with
  | nil => rfl
  | cons item later ih =>
      rw [List.map_cons, allLinesAt, linesAt, ih, List.map_cons, List.singleton_append]

end Fragment

/-! ### Writing a fragment -/

theorem Indent.leading_eq (indent : Indent) (level : Nat) :
    indent.leading level = String.join (List.replicate level indent.unit) := by
  induction level with
  | zero => rfl
  | succ level ih => rw [leading, ih, List.replicate_succ, String.join_cons]

namespace Builder

/-- The builder that has written some more text. -/
def append (builder : Builder) (text : String) : Builder :=
  { builder with text := builder.text ++ text }

@[simp]
theorem append_indent (builder : Builder) (text : String) :
    (builder.append text).indent = builder.indent :=
  rfl

@[simp]
theorem append_level (builder : Builder) (text : String) :
    (builder.append text).level = builder.level :=
  rfl

@[simp]
theorem append_empty (builder : Builder) : builder.append "" = builder := by
  rw [append, String.append_empty]

@[simp]
theorem append_append (builder : Builder) (first later : String) :
    (builder.append first).append later = builder.append (first ++ later) := by
  simp only [append, String.append_assoc]

variable {builder : Builder} {base depth : Nat}

/-- A line is written as the line of its depth above the base. -/
theorem line_at (level : builder.level = base + depth) (text : String) :
    builder.line text =
      builder.append ((LaidLine.indented depth text).text builder.indent base) := by
  simp only [line, append, LaidLine.text, Indent.leading_eq, level, String.append_assoc]

/-- A list of lines is written as the lines of their depth above the base. -/
theorem lines_at (level : builder.level = base + depth) (texts : List String) :
    builder.lines texts =
      builder.append (written builder.indent base (texts.map (.indented depth))) := by
  induction texts generalizing builder with
  | nil => exact builder.append_empty.symm
  | cons first later ih =>
      rw [lines, List.foldl_cons, ← lines, line_at level, ih ((append_level _ _).trans level),
        append_append, List.map_cons, LaidLine.written_cons, append_indent]

/-- Going deeper for a text and back leaves the level as it was. -/
theorem deeper_append_shallower (text : String) :
    (builder.deeper.append text).shallower = builder.append text :=
  rfl

mutual

/-- A builder that is so much deeper than the base appends the lines of the fragment at that
depth. -/
theorem fragment_at : ∀ (item : Fragment) {builder : Builder} {base depth : Nat},
    builder.level = base + depth →
    builder.fragment item = builder.append (written builder.indent base (item.linesAt depth))
  | .line text, builder, base, depth, level => by
    rw [fragment, line_at level, Fragment.linesAt, LaidLine.written_cons, LaidLine.written_nil,
      String.append_empty]
  | .blank, builder, base, depth, level => by
    rw [fragment, Fragment.linesAt, LaidLine.written_cons, LaidLine.written_nil,
      String.append_empty]
    rfl
  | .block header body close, builder, base, depth, level => by
    -- Inside the block the level is positive, so leaving it undoes entering it.
    have inner (text : String) : (builder.append text).deeper.fragments body =
        ((builder.append text).deeper).append
          (written builder.indent base (Fragment.allLinesAt (depth + 1) body)) :=
      fragments_at body (congrArg Nat.succ level)
    cases close with
    | none =>
        rw [fragment.eq_def]
        dsimp only
        rw [line_at level, inner, deeper_append_shallower, append_append]
        simp [Fragment.linesAt]
    | some text =>
        rw [fragment.eq_def]
        dsimp only
        rw [line_at level, inner, deeper_append_shallower, append_append,
          line_at ((append_level _ _).trans level), append_append]
        simp [Fragment.linesAt, String.append_assoc]
  | .sequence items, builder, base, depth, level => by
    rw [fragment, fragments_at items level, Fragment.linesAt]
  | .comment texts, builder, base, depth, level => by
    rw [fragment, comment, lines_at level, Fragment.linesAt]

/-- Fragments append their lines, each at its depth above the base. -/
theorem fragments_at : ∀ (items : List Fragment) {builder : Builder} {base depth : Nat},
    builder.level = base + depth →
    builder.fragments items =
      builder.append (written builder.indent base (Fragment.allLinesAt depth items))
  | [], builder, base, depth, level => by
    rw [fragments, Fragment.allLinesAt, LaidLine.written_nil, append_empty]
  | first :: later, builder, base, depth, level => by
    rw [fragments, fragment_at first level, fragments_at later ((append_level _ _).trans level),
      append_append, append_indent, Fragment.allLinesAt, LaidLine.written_append]

end

/-- Writing a fragment appends its lines and leaves the level as it was. -/
theorem fragment_eq (builder : Builder) (item : Fragment) :
    builder.fragment item =
      builder.append (written builder.indent builder.level (item.linesAt 0)) :=
  fragment_at item (Nat.add_zero _).symm

/-- Fragments append their lines, counted from the level of the builder. -/
theorem fragments_eq (builder : Builder) (items : List Fragment) :
    builder.fragments items =
      builder.append (written builder.indent builder.level (Fragment.allLinesAt 0 items)) :=
  fragments_at items (Nat.add_zero _).symm

end Builder

/-- The text of fragments that stand alone consists of their lines. -/
theorem Fragment.render_eq (indent : Indent) (items : List Fragment) :
    render indent items = written indent 0 (allLinesAt 0 items) := by
  rw [render, Builder.fragments_eq, Builder.append, Builder.new, String.empty_append]

theorem Fragment.render_line (indent : Indent) (text : String) :
    render indent [.line text] = text ++ "\n" := by
  rw [render_eq]
  simp [allLinesAt, linesAt, LaidLine.text]

/-! ### Steps of writing -/

/-- A step of writing. -/
inductive WritingStep where
  | line (text : String)
  | blank
  /-- What follows stands one level deeper. -/
  | deeper
  /-- What follows stands one level less deep, if there is one. -/
  | shallower
  | comment (texts : List String)
  | fragment (item : Fragment)
  /-- A declaration, or whatever else is laid out as fragments. -/
  | layout (items : List Fragment)

namespace WritingStep

/-- The lines that a step writes. -/
def lines : WritingStep → List LaidLine
  | line text => [.indented 0 text]
  | blank => [.blank]
  | deeper => []
  | shallower => []
  | comment texts => (Fragment.commentLines texts).map (.indented 0)
  | fragment item => item.linesAt 0
  | layout items => Fragment.allLinesAt 0 items

/-- How a step would move the level if there were levels below zero. -/
def shift : WritingStep → Int
  | deeper => 1
  | shallower => -1
  | _ => 0

/-- The level after a step. -/
def levelAfter (level : Nat) (step : WritingStep) : Nat :=
  (max 0 (level + step.shift)).toNat

/-- The level after some steps. -/
def walk (level : Nat) (steps : List WritingStep) : Nat :=
  steps.foldl levelAfter level

/-- What each of some steps writes, at the level that the steps before it lead to. -/
def outputs (indent : Indent) (level : Nat) : List WritingStep → List String
  | [] => []
  | step :: later => written indent level step.lines :: outputs indent (levelAfter level step) later

theorem levelAfter_of_still {step : WritingStep} (still : step.shift = 0) (level : Nat) :
    levelAfter level step = level := by
  simp [levelAfter, still]

theorem levelAfter_deeper (level : Nat) : levelAfter level deeper = level + 1 := by
  simp only [levelAfter, shift]
  omega

theorem levelAfter_shallower (level : Nat) : levelAfter level shallower = level - 1 := by
  simp only [levelAfter, shift]
  omega

end WritingStep

namespace Builder

open WritingStep (levelAfter walk outputs)

/-- The builder after a step. -/
def perform (builder : Builder) : WritingStep → Builder
  | .line text => builder.line text
  | .blank => builder.blank
  | .deeper => builder.deeper
  | .shallower => builder.shallower
  | .comment texts => builder.comment texts
  | .fragment item => builder.fragment item
  | .layout items => builder.fragments items

/-- A step that writes appends its lines. -/
theorem perform_of_still (builder : Builder) {step : WritingStep} (still : step.shift = 0) :
    builder.perform step = builder.append (written builder.indent builder.level step.lines) := by
  have here : builder.level = builder.level + 0 := rfl
  cases step with
  | line text =>
      rw [WritingStep.lines, LaidLine.written_cons, LaidLine.written_nil, String.append_empty]
      exact line_at here text
  | blank =>
      rw [WritingStep.lines, LaidLine.written_cons, LaidLine.written_nil, String.append_empty]
      rfl
  | deeper => cases still
  | shallower => cases still
  | comment texts => exact lines_at here (Fragment.commentLines texts)
  | fragment item => exact builder.fragment_eq item
  | layout items => exact builder.fragments_eq items

/-- A step appends its lines and moves the level. -/
theorem perform_eq (builder : Builder) (step : WritingStep) :
    builder.perform step =
      { indent := builder.indent
        level := levelAfter builder.level step
        text := builder.text ++ written builder.indent builder.level step.lines } := by
  by_cases still : step.shift = 0
  · rw [perform_of_still builder still, WritingStep.levelAfter_of_still still]
    rfl
  · cases step with
    | deeper =>
        rw [WritingStep.levelAfter_deeper, WritingStep.lines, LaidLine.written_nil,
          String.append_empty]
        rfl
    | shallower =>
        rw [WritingStep.levelAfter_shallower, WritingStep.lines, LaidLine.written_nil,
          String.append_empty]
        rfl
    | _ => exact absurd rfl still

end Builder

/-- **Writing is a homomorphism.** Writing a fragment leaves the level as it was and appends the
lines of the fragment, those inside blocks indented from that level on. Steps of any kind append
what each of them writes, one after another, while the level walks up and down and is held at zero
where it would fall below. -/
theorem writing_concatenates (builder : Builder) :
    (∀ item : Fragment,
      builder.fragment item =
        { indent := builder.indent
          level := builder.level
          text := builder.text ++ written builder.indent builder.level (item.linesAt 0) }) ∧
    ∀ steps : List WritingStep,
      steps.foldl Builder.perform builder =
        { indent := builder.indent
          level := WritingStep.walk builder.level steps
          text := builder.text ++
            String.join (WritingStep.outputs builder.indent builder.level steps) } := by
  refine ⟨builder.fragment_eq, fun steps => ?_⟩
  induction steps generalizing builder with
  | nil =>
      rw [WritingStep.outputs, String.join_nil, String.append_empty]
      rfl
  | cons step later ih =>
      rw [List.foldl_cons, ih, Builder.perform_eq, WritingStep.outputs, String.join_cons,
        ← String.append_assoc]
      rfl

/-- A step out of the outermost level is no debt: the next step in does indent. -/
example :
    ([.shallower, .deeper, .line "x"] : List WritingStep).foldl Builder.perform (.new .tab) =
      { indent := .tab, level := 1, text := "\tx\n" } := by
  decide

end ElementTypings
