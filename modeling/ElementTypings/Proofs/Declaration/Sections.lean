import ElementTypings.Declaration.Document
import ElementTypings.Proofs.Layout.Writing

/-!
# Sections and the blank lines between them

A document is written section by section into one builder, and a blank line is put before a section
if something has been written. As every section consists of whole lines and of at least one, the
text is that of the sections, each of them standing alone, with one blank line between every two of
them (`Document.render_eq`).
-/

namespace ElementTypings

open LaidLine (written)

/-! ### Texts of whole lines -/

/-- Laid out lines end with the end of a line. -/
theorem exists_line_of_written {indent : Indent} {level : Nat} {lines : List LaidLine}
    (some : lines ≠ []) : ∃ body, written indent level lines = body ++ "\n" := by
  obtain ⟨earlier, last, rfl⟩ : ∃ earlier last, lines = earlier ++ [last] :=
    ⟨_, _, (List.dropLast_concat_getLast some).symm⟩
  obtain ⟨body, ended⟩ : ∃ body, last.text indent level = body ++ "\n" := by
    cases last with
    | indented depth text => exact ⟨_, rfl⟩
    | blank => exact ⟨"", rfl⟩
  refine ⟨written indent level earlier ++ body, ?_⟩
  rw [LaidLine.written_append, LaidLine.written_cons, LaidLine.written_nil, ended,
    String.append_empty, String.append_assoc]

/-- A text that ends with the end of a line is not empty. -/
theorem append_line_ne_empty (body : String) : body ++ "\n" ≠ "" := by
  intro empty
  have ended : "\n" = "" := (String.append_eq_empty_iff.mp empty).2
  exact absurd ended (by decide)

namespace Fragment

variable (indent : Indent) {items : List Fragment}

/-- Fragments that have a line have a text of whole lines. -/
theorem exists_line_of_render (some : allLinesAt 0 items ≠ []) :
    ∃ body, render indent items = body ++ "\n" := by
  rw [render_eq]
  exact exists_line_of_written some

/-- Fragments have no text exactly if they have no line. -/
theorem render_eq_empty_iff : render indent items = "" ↔ allLinesAt 0 items = [] := by
  constructor
  · intro empty
    cases lines : allLinesAt 0 items with
    | nil => rfl
    | cons line later =>
        have some : allLinesAt 0 items ≠ [] := by
          rw [lines]
          nofun
        obtain ⟨body, ended⟩ := exists_line_of_render indent some
        exact absurd (ended.symm.trans empty) (append_line_ne_empty body)
  · intro none
    rw [render_eq, none, LaidLine.written_nil]

/-- Fragments are written one after another. -/
theorem render_append (first later : List Fragment) :
    render indent (first ++ later) = render indent first ++ render indent later := by
  simp only [render_eq, allLinesAt_append, LaidLine.written_append]

/-- So are the layouts of several parts. -/
theorem render_flatMap {Item : Type} (layout : Item → List Fragment) (parts : List Item) :
    render indent (parts.flatMap layout) =
      String.join (parts.map fun part => render indent (layout part)) := by
  induction parts with
  | nil => rfl
  | cons part later ih =>
      rw [List.flatMap_cons, render_append, ih, List.map_cons, String.join_cons]

end Fragment

/-- An import statement has a line, at whatever depth it stands. -/
theorem ImportStatement.allLinesAt_fragments_ne_nil (statement : ImportStatement) (depth : Nat) :
    Fragment.allLinesAt depth statement.fragments ≠ [] := by
  unfold fragments
  dsimp only
  split
  · nofun
  · split <;> nofun

/-! ### Sections in one builder -/

namespace Document

variable {builder : Builder}

/-- The first section is written without a line before it. -/
theorem addSection_of_empty (outermost : builder.level = 0) (empty : builder.text = "")
    (content : List Fragment) :
    addSection builder content = builder.append (Fragment.render builder.indent content) := by
  rw [addSection, if_pos (by simp [Builder.isEmpty, empty]), Builder.fragments_eq, outermost,
    Fragment.render_eq]

/-- Any later section has a blank line before it. -/
theorem addSection_of_ne_empty (outermost : builder.level = 0) (some : builder.text ≠ "")
    (content : List Fragment) :
    addSection builder content =
      builder.append ("\n" ++ Fragment.render builder.indent content) := by
  have blank : builder.blank = builder.append "\n" := rfl
  rw [addSection, if_neg (by simp [Builder.isEmpty, some]), blank, Builder.fragments_eq,
    Builder.append_append, Builder.append_level, outermost, Fragment.render_eq,
    Builder.append_indent]

/-- Sections behind some text are written with a blank line before each of them. -/
theorem foldl_addSection_eq (outermost : builder.level = 0) (some : builder.text ≠ "")
    (sections : List (List Fragment)) :
    sections.foldl addSection builder =
      builder.append
        (String.join (sections.map fun content =>
          "\n" ++ Fragment.render builder.indent content)) := by
  induction sections generalizing builder with
  | nil => exact builder.append_empty.symm
  | cons content later ih =>
      rw [List.foldl_cons, addSection_of_ne_empty outermost some,
        ih ((builder.append_level _).trans outermost), Builder.append_append, List.map_cons,
        String.join_cons, Builder.append_indent]
      exact fun empty => some (String.append_eq_empty_iff.mp empty).1

/-- Texts are joined by writing the separator before each of them but the first. -/
theorem intercalate_cons_eq (separator first : String) (later : List String) :
    separator.intercalate (first :: later) =
      first ++ String.join (later.map fun text => separator ++ text) := by
  induction later generalizing first with
  | nil => simp
  | cons next rest ih =>
      rw [String.intercalate_cons_cons, ih, List.map_cons, String.join_cons]
      simp only [String.append_assoc]

/-- Sections of at least one line each are joined by blank lines. -/
theorem text_foldl_addSection (indent : Indent) {sections : List (List Fragment)}
    (full : ∀ content ∈ sections, Fragment.render indent content ≠ "") :
    (sections.foldl addSection (Builder.new indent)).text =
      "\n".intercalate (sections.map (Fragment.render indent)) := by
  cases sections with
  | nil => rfl
  | cons first later =>
      have some : Fragment.render indent first ≠ "" := full first List.mem_cons_self
      have started : addSection (Builder.new indent) first =
          (Builder.new indent).append (Fragment.render indent first) :=
        addSection_of_empty rfl rfl first
      have written : ((Builder.new indent).append (Fragment.render indent first)).text =
          Fragment.render indent first :=
        String.empty_append
      rw [List.foldl_cons, started, foldl_addSection_eq rfl (written ▸ some), List.map_cons,
        intercalate_cons_eq, List.map_map]
      exact congrArg (· ++ _) written

/-! ### The sections of a document -/

variable {document : Document} {indent : Indent}

/-- Every section has a line, if every block has one. -/
theorem render_ne_empty_of_mem_sections
    (full : ∀ block ∈ document.blocks, Fragment.render indent block ≠ "") :
    ∀ content ∈ document.sections, Fragment.render indent content ≠ "" := by
  intro content listed
  unfold sections at listed
  rcases List.mem_append.mp listed with listed | block
  · rw [Ne, Fragment.render_eq_empty_iff]
    rcases List.mem_append.mp listed with listed | imported
    · rcases List.mem_append.mp listed with comment | collected
      · split at comment
        · cases comment
        · obtain rfl := List.mem_singleton.mp comment
          nofun
      · obtain ⟨statement, -, rfl⟩ := List.mem_map.mp collected
        exact statement.allLinesAt_fragments_ne_nil 0
    · split at imported
      · cases imported
      · next present =>
        obtain rfl := List.mem_singleton.mp imported
        cases statements : document.imports with
        | nil => exact absurd (by rw [statements]; rfl) present
        | cons statement later =>
            rw [List.flatMap_cons, Fragment.allLinesAt_append]
            exact List.append_ne_nil_of_left_ne_nil (statement.allLinesAt_fragments_ne_nil 0) _
  · exact full content block

/-- A document without sections is empty. -/
theorem sections_eq_nil_iff : document.sections = [] ↔ document.isEmpty := by
  unfold sections isEmpty
  cases document.header <;> cases document.imports <;> simp

/-- The texts that a document consists of, each written alone: the header comment if it has lines,
every collection, all type imports one after another if there are any, and every block. -/
def texts (document : Document) (indent : Indent) : List String :=
  (if document.header = [] then [] else [Fragment.render indent [.comment document.header]]) ++
    document.collections.map (fun statement => Fragment.render indent statement.fragments) ++
    (if document.imports = [] then []
      else [String.join (document.imports.map fun statement =>
        Fragment.render indent statement.fragments)]) ++
    document.blocks.map (Fragment.render indent)

/-- The texts of a document are those of its sections. -/
theorem texts_eq (document : Document) (indent : Indent) :
    document.texts indent = document.sections.map (Fragment.render indent) := by
  simp only [texts, sections, List.map_append, List.map_map, List.isEmpty_iff]
  split <;> split <;> simp [Fragment.render_flatMap]

/-- The text of a document consists of its texts and of the blank lines between them. -/
theorem render_eq (full : ∀ block ∈ document.blocks, Fragment.render indent block ≠ "") :
    document.render indent = "\n".intercalate (document.texts indent) := by
  rw [texts_eq]
  exact text_foldl_addSection indent (render_ne_empty_of_mem_sections full)

/-- Every text consists of whole lines. -/
theorem exists_line_of_mem_texts
    (full : ∀ block ∈ document.blocks, Fragment.render indent block ≠ "") :
    ∀ text ∈ document.texts indent, ∃ body, text = body ++ "\n" := by
  intro text listed
  rw [texts_eq] at listed
  obtain ⟨content, part, rfl⟩ := List.mem_map.mp listed
  have some := render_ne_empty_of_mem_sections full content part
  exact Fragment.exists_line_of_render indent (some ∘ (Fragment.render_eq_empty_iff indent).mpr)

theorem render_eq_empty_iff (full : ∀ block ∈ document.blocks, Fragment.render indent block ≠ "") :
    document.render indent = "" ↔ document.isEmpty := by
  have text := text_foldl_addSection indent (render_ne_empty_of_mem_sections full)
  rw [← sections_eq_nil_iff, render, text]
  cases parts : document.sections with
  | nil => exact iff_of_true rfl rfl
  | cons first later =>
      refine iff_of_false (fun empty => ?_) nofun
      rw [List.map_cons, intercalate_cons_eq] at empty
      apply render_ne_empty_of_mem_sections full first (parts ▸ List.mem_cons_self)
      exact (String.append_eq_empty_iff.mp empty).1

end Document

end ElementTypings
