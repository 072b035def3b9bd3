import ElementTypings.Proofs.Json.Marking
import ElementTypings.Proofs.Registry.RepeatedTags
import ElementTypings.Proofs.Registry.RoundTrip

/-!
# Where repeated tags are shown

A document may be read with the literals of its tags. Nothing else about the scans that it lists
changes (`Registry.scansOf_eq_map`), and every tag is declared by a literal that stands in the
document and is read as the tag wherever it stands (`Registry.exists_declaresTag`).

The labels on a repeated tag are on the first two places of the document at which the tag stands
between quotes. These are the two declarations exactly if both are written without escapes and the
tag stands between quotes nowhere before the first of them, nor between them
(`Registry.labels_at_declarations_iff`). Another text of the registry may come before them
(`Registry.labels_on_class_name`).
-/

namespace ElementTypings.Registry

open Json (Part IsIn)
open Json.Reader

/-! ### Literals of tags -/

/-- The scans that a document lists, each component with the literal that its tag is read from. -/
def literalScansOf (document : String) :
    Except Json.Failure (List (String × Option (Component × Option Part))) :=
  Json.read (listing (optional (componentRecord.marking "tagName").read)) document

/-- The literal that the tag of a file is read from: that in the last scan of the file. -/
def tagLiteral? (document file : String) : Option Part := do
  let scans ← (literalScansOf document).toOption
  let scan ← (scans.reverse.lookup file).join
  scan.2

/-- Spaces before the value of the tag name do not matter. -/
theorem dropsSpaces_tagName : ∀ field ∈ componentRecord.fields, field.name = "tagName" →
    ∀ draft, DropsSpaces (field.read draft) := by
  refine List.forall_mem_cons.mpr ⟨fun _ draft => (dropsSpaces_string _).bind _, ?_⟩
  refine List.forall_mem_cons.mpr ⟨fun same => absurd same (by decide), ?_⟩
  refine List.forall_mem_cons.mpr ⟨fun same => absurd same (by decide), ?_⟩
  exact List.forall_mem_singleton.mpr fun same => absurd same (by decide)

/-- The scans of a document are those that are listed with their literals. -/
theorem scansOf_eq_map (document : String) :
    scansOf document =
      (literalScansOf document).map (List.map (Prod.map id (Option.map Prod.fst))) := by
  unfold scansOf literalScansOf
  rw [← Record.map_read_marking dropsSpaces_tagName, ← map_optional, ← map_listing, Json.read_map]

/-! ### Literals in place -/

/-- The part stands in the document and is read as the tag. -/
structure Spells (document : String) (literal : Part) (tag : String) : Prop where
  stands : Text.StandsAt literal.text document literal.offset
  read : Takes (string "a string") literal.text.toList tag

section

variable {place : Text.Cursor → Prop} (onward : Onward place)

include onward

/-- Reading a reference stays in the document. -/
theorem stays_reference : Stays place referenceRecord.read := by
  refine Record.stays_read onward (List.forall_mem_cons.mpr ⟨fun draft => ?_, ?_⟩)
  · exact (stays_string onward _).after fun _ => stays_pure _
  refine List.forall_mem_cons.mpr ⟨fun draft => ?_, ?_⟩
  · exact (stays_string onward _).after fun _ => stays_pure _
  refine List.forall_mem_singleton.mpr fun draft => ?_
  exact (finds_optional onward (stays_string onward _)).stays.after fun _ => stays_pure _

theorem stays_type : Stays place attributeRecord.read := by
  refine Record.stays_read onward (List.forall_mem_cons.mpr ⟨fun draft => ?_, ?_⟩)
  · exact (stays_string onward _).after fun _ => stays_pure _
  refine List.forall_mem_singleton.mpr fun draft => ?_
  exact (finds_list onward (stays_reference onward)).stays.after fun _ => stays_pure _

theorem stays_member : Stays place memberRecord.read := by
  refine Record.stays_read onward (List.forall_mem_cons.mpr ⟨fun draft => ?_, ?_⟩)
  · exact (stays_word onward _ _).after fun _ => stays_pure _
  refine List.forall_mem_singleton.mpr fun draft => ?_
  exact (finds_optional onward (stays_type onward)).stays.after fun _ => stays_pure _

end

/-- A draft that has a tag has the literal of the tag. -/
def HasLiteral (document : String) (draft : ComponentDraft × Option Part) : Prop :=
  ∀ tag, draft.1.tagName = some tag → ∃ literal, draft.2 = some literal ∧
    Spells document literal tag

/-- The literal that is marked in a component spells its tag name. -/
theorem finds_component (document : String) :
    Finds (IsIn document)
      (fun found => ∃ literal, found.2 = some literal ∧ Spells document literal found.1.tagName)
      (componentRecord.marking "tagName").read := by
  have onward := onward_isIn document
  have other {field : Json.Reader.Field ComponentDraft} (named : field.name ≠ "tagName")
      (keeps : ∀ draft, Finds (IsIn document)
        (fun next : ComponentDraft => next.tagName = draft.tagName) (field.read draft))
      (draft : ComponentDraft × Option Part) (has : HasLiteral document draft) :
      Finds (IsIn document) (HasLiteral document) ((field.marking "tagName").read draft) := by
    unfold Field.marking
    dsimp only
    rw [if_neg named]
    refine (keeps draft.1).bind fun next same => .pure fun tag tagged => has tag ?_
    rw [← same]
    exact tagged
  have keeps : ∀ field ∈ (componentRecord.marking "tagName").fields, ∀ draft,
      HasLiteral document draft →
        Finds (IsIn document) (HasLiteral document) (field.read draft) := by
    refine List.forall_mem_map.mpr (List.forall_mem_cons.mpr ⟨fun draft _ => ?_, ?_⟩)
    · refine (finds_marked document "a string" _).bind fun found read => .pure fun tag tagged => ?_
      obtain ⟨value, shown, stands, takes⟩ := read
      dsimp only at tagged
      rw [shown] at tagged
      cases tagged
      exact ⟨found.2, rfl, stands, takes⟩
    refine List.forall_mem_cons.mpr ⟨other (by decide) fun draft => ?_, ?_⟩
    · exact (stays_string onward _).after fun _ => .pure rfl
    refine List.forall_mem_cons.mpr ⟨other (by decide) fun draft => ?_, ?_⟩
    · exact (finds_map onward (stays_member onward)).stays.after fun _ => .pure rfl
    refine List.forall_mem_singleton.mpr (other (by decide) fun draft => ?_)
    exact (stays_string onward _).after fun _ => .pure rfl
  refine Record.finds_read onward nofun keeps fun draft found has finished => ?_
  obtain ⟨component, read, rfl⟩ := map_eq_ok_iff.mp finished
  obtain ⟨tagName, present, read⟩ := bind_eq_ok_iff.mp read
  obtain ⟨className, -, read⟩ := bind_eq_ok_iff.mp read
  obtain ⟨sourcePath, -, read⟩ := bind_eq_ok_iff.mp read
  cases read
  exact has tagName (wanted_eq_ok present)

/-- The literal that the tag of a file is read from, at its place in the document. -/
structure DeclaresTag (document file tag : String) (literal : Part) : Prop
    extends Spells document literal tag where
  found : tagLiteral? document file = some literal

section

variable {document file : String} {scans : List (String × Option (Component × Option Part))}
  (read : literalScansOf document = .ok scans)

include read

/-- Without the literals, the scans are those of the plain reader. -/
theorem scansOf_of_literalScansOf :
    scansOf document = .ok (scans.map (Prod.map id (Option.map Prod.fst))) := by
  rw [scansOf_eq_map, read]
  rfl

/-- Every component that is listed has the literal of its tag. -/
theorem exists_spells_of_mem {scan : Component × Option Part}
    (listed : (file, some scan) ∈ scans) :
    ∃ literal, scan.2 = some literal ∧ Spells document literal scan.1.tagName := by
  have onward := onward_isIn document
  exact Json.holds_of_finds onward
    (finds_listing onward (finds_optional onward (finds_component document)))
    (Json.isIn_start document) read _ listed scan rfl

/-- The tag of a file is declared by the literal in its last scan. -/
theorem exists_declaresTag_of_lookup {file : String} {scan : Component × Option Part}
    (last : scans.reverse.lookup file = some (some scan)) :
    ∃ literal, scan.2 = some literal ∧ DeclaresTag document file scan.1.tagName literal := by
  have listed := List.mem_reverse.mp (OrderedMap.mem_of_lookup last)
  obtain ⟨literal, held, spells⟩ := exists_spells_of_mem read listed
  refine ⟨literal, held, spells, ?_⟩
  unfold tagLiteral?
  rw [read]
  dsimp only [Except.toOption, Option.bind_eq_bind, Option.bind_some]
  rw [last]
  exact held

/-- The last scan of a file declares its tag where the literal stands. -/
theorem declaresTag_of_lookup (file : String) {component : Component} {literal : Part}
    (last : scans.reverse.lookup file = some (some (component, some literal))) :
    DeclaresTag document file component.tagName literal := by
  obtain ⟨_, held, declared⟩ := exists_declaresTag_of_lookup read last
  cases held
  exact declared

end

/-- Every tag is declared by a literal. -/
theorem exists_declaresTag {document file tag : String} {scans : List (String × Option Component)}
    (listed : scansOf document = .ok scans) (tagged : lastTag? scans file = some tag) :
    ∃ literal, DeclaresTag document file tag literal := by
  rw [scansOf_eq_map] at listed
  obtain ⟨marked, read, rfl⟩ := map_eq_ok_iff.mp listed
  unfold lastTag? lastFound? at tagged
  rw [← List.map_reverse, OrderedMap.lookup_map] at tagged
  obtain ⟨component, held, rfl⟩ := Option.map_eq_some_iff.mp tagged
  obtain ⟨found, last, shown⟩ := Option.map_eq_some_iff.mp (Option.join_eq_some_iff.mp held)
  obtain ⟨scan, rfl, rfl⟩ := Option.map_eq_some_iff.mp shown
  obtain ⟨literal, -, declared⟩ := exists_declaresTag_of_lookup read last
  exact ⟨literal, declared⟩

/-! ### Labels -/

/-- The literal of a tag without escapes. -/
def plainLiteral (tag : String) : String :=
  "\"" ++ tag ++ "\""

/-- A remark on a part of a document. -/
def remark (text : String) (part : Part) : Label :=
  { text, offset := part.offset, length := part.text.utf8ByteSize }

/-- The labels are on two parts if these are the first two places of the plain literal. -/
theorem duplicateLabels_eq_iff {source : SourceText} {duplicate : DuplicateTag}
    {first second : Part} :
    InputFailure.duplicateLabels source duplicate =
        [remark ("first declared by '" ++ duplicate.first ++ "'") first,
          remark "declared again here" second] ↔
      (∃ later, Text.occurrences (plainLiteral duplicate.tag) source.content =
          first.offset :: second.offset :: later) ∧
        first.text.utf8ByteSize = (plainLiteral duplicate.tag).utf8ByteSize ∧
        second.text.utf8ByteSize = (plainLiteral duplicate.tag).utf8ByteSize := by
  unfold InputFailure.duplicateLabels remark
  dsimp only
  rw [← plainLiteral]
  rcases Text.occurrences (plainLiteral duplicate.tag) source.content with
    _ | ⟨offset, _ | ⟨other, later⟩⟩
  · simp
  · simp
  · simp only [List.zip_cons_cons, List.zip_nil_left, List.map_cons, List.map_nil,
      List.cons.injEq, Label.mk.injEq, true_and, and_true, exists_and_left, exists_eq']
    constructor
    · rintro ⟨⟨rfl, first⟩, rfl, second⟩
      exact ⟨⟨rfl, rfl⟩, first.symm, second.symm⟩
    · rintro ⟨⟨rfl, rfl⟩, first, second⟩
      exact ⟨⟨rfl, first.symm⟩, rfl, second.symm⟩

/-- **The labels of a repeated tag.** Both declarations of the tag are literals of the document.
The labels are on these literals exactly if both are written without escapes, the first one is the
first place at which the tag stands between quotes, and the second one is the next such place behind
it. -/
theorem labels_at_declarations_iff {source : SourceText} {duplicate : DuplicateTag}
    (refused : ofSource source = .error (.duplicateTag source duplicate)) :
    ∃ first second, DeclaresTag source.content duplicate.first duplicate.tag first ∧
      DeclaresTag source.content duplicate.second duplicate.tag second ∧
      ((InputFailure.duplicateTag source duplicate).labels =
          [remark ("first declared by '" ++ duplicate.first ++ "'") first,
            remark "declared again here" second] ↔
        first.text = plainLiteral duplicate.tag ∧ second.text = plainLiteral duplicate.tag ∧
          Text.OccursNext (plainLiteral duplicate.tag) source.content 0 first.offset ∧
          Text.OccursNext (plainLiteral duplicate.tag) source.content
            (first.offset + first.text.utf8ByteSize) second.offset) := by
  obtain ⟨registry, read, repeated⟩ := ofSource_eq_duplicateTag_iff.mp refused
  obtain ⟨scans, listed, rfl⟩ := ofJson_eq_ok_iff.mp read
  have repetition := isFirstRepetition_of_duplicateTag? repeated
  obtain ⟨earlier, later, split, first, -⟩ := repetition.split
  obtain ⟨first, declaredFirst⟩ := exists_declaresTag listed ((first duplicate.first).mpr rfl).2
  obtain ⟨second, declaredAgain⟩ := exists_declaresTag listed repetition.second
  have solid : plainLiteral duplicate.tag ≠ "" := by
    simp [plainLiteral]
  refine ⟨first, second, declaredFirst, declaredAgain, ?_⟩
  rw [InputFailure.labels, duplicateLabels_eq_iff, Text.exists_occurrences_iff solid]
  constructor
  · rintro ⟨⟨next, onward⟩, sizeFirst, sizeSecond⟩
    rw [sizeFirst]
    exact ⟨declaredFirst.stands.unique next.stands sizeFirst,
      declaredAgain.stands.unique onward.stands sizeSecond, next, onward⟩
  · rintro ⟨plainFirst, plainSecond, next, onward⟩
    rw [plainFirst] at onward ⊢
    rw [plainSecond]
    exact ⟨⟨next, onward⟩, rfl, rfl⟩

/-- A scan with spaces, and with the tag once more behind its declarations. -/
def spacedScan : SourceText :=
  { name := "scan.json"
    content := "\x7b \"a\": [ \"x-el\", \"A\", \x7b\x7d, \"/app\" ], \"b\": \x7b " ++
      "\"className\": \"B\", \"tagName\" : \"x-el\", \"note\": [\"x-el\"], " ++
      "\"sourcePath\": \"/app\" \x7d \x7d" }

/-- Both literals of the spaced document are marked. -/
theorem literalScansOf_spacedScan : literalScansOf spacedScan.content =
    .ok [("a", some (plainComponent "A", some { offset := 9, text := "\"x-el\"" })),
      ("b", some (plainComponent "B", some { offset := 73, text := "\"x-el\"" }))] :=
  eq_ok_of_toOption (by decide +kernel)

/-- The condition holds of the spaced document, so both labels are right there. -/
theorem labels_at_declarations_iff_of_spaced :
    ofSource spacedScan =
        .error (.duplicateTag spacedScan { tag := "x-el", first := "a", second := "b" }) ∧
      DeclaresTag spacedScan.content "a" "x-el" { offset := 9, text := "\"x-el\"" } ∧
      DeclaresTag spacedScan.content "b" "x-el" { offset := 73, text := "\"x-el\"" } ∧
      Text.OccursNext "\"x-el\"" spacedScan.content 0 9 ∧
      Text.OccursNext "\"x-el\"" spacedScan.content 15 73 := by
  have listed := scansOf_of_literalScansOf literalScansOf_spacedScan
  have refused : ofSource spacedScan =
      .error (.duplicateTag spacedScan { tag := "x-el", first := "a", second := "b" }) :=
    ofSource_eq_duplicateTag_iff.mpr ⟨_, ofJson_eq_ok_iff.mpr ⟨_, listed, rfl⟩, by decide⟩
  obtain ⟨first, second, declaredFirst, declaredAgain, exact⟩ := labels_at_declarations_iff refused
  have atFirst := declaresTag_of_lookup literalScansOf_spacedScan "a" rfl
  have atSecond := declaresTag_of_lookup literalScansOf_spacedScan "b" rfl
  cases declaredFirst.found.symm.trans atFirst.found
  cases declaredAgain.found.symm.trans atSecond.found
  obtain ⟨-, -, next, onward⟩ := exact.mp (by decide +kernel)
  exact ⟨refused, declaredFirst, declaredAgain, next, onward⟩

/-- A scan with a class that has the name of its tag. -/
def classNamedScan : SourceText :=
  { name := "scan.json"
    content := "\x7b\"/app/a.tsx\":\x7b\"className\":\"x-el\",\"tagName\":\"x-el\"," ++
      "\"sourcePath\":\"/app/a.tsx\"\x7d,\"/app/b.tsx\":\x7b\"tagName\":\"x-el\"," ++
      "\"className\":\"B\",\"sourcePath\":\"/app/b.tsx\"\x7d\x7d" }

/-- The tag literals of the document in which a class has the name of the tag. -/
theorem literalScansOf_classNamedScan : literalScansOf classNamedScan.content =
    .ok [("/app/a.tsx", some
          ({ tagName := "x-el", className := "x-el", members := ∅, sourcePath := "/app/a.tsx" },
            some { offset := 44, text := "\"x-el\"" })),
        ("/app/b.tsx", some
          ({ tagName := "x-el", className := "B", members := ∅, sourcePath := "/app/b.tsx" },
            some { offset := 102, text := "\"x-el\"" }))] :=
  eq_ok_of_toOption (by decide +kernel)

/-- The first label is on the name of the class, and the second one on the first declaration. -/
theorem labels_on_class_name :
    ofSource classNamedScan = .error (.duplicateTag classNamedScan
        { tag := "x-el", first := "/app/a.tsx", second := "/app/b.tsx" }) ∧
      DeclaresTag classNamedScan.content "/app/a.tsx" "x-el"
        { offset := 44, text := "\"x-el\"" } ∧
      DeclaresTag classNamedScan.content "/app/b.tsx" "x-el"
        { offset := 102, text := "\"x-el\"" } ∧
      (InputFailure.duplicateTag classNamedScan
          { tag := "x-el", first := "/app/a.tsx", second := "/app/b.tsx" }).labels =
        [{ text := "first declared by '/app/a.tsx'", offset := 27, length := 6 },
          { text := "declared again here", offset := 44, length := 6 }] := by
  have listed := scansOf_of_literalScansOf literalScansOf_classNamedScan
  refine ⟨?_, ?_, ?_, by decide +kernel⟩
  · exact ofSource_eq_duplicateTag_iff.mpr ⟨_, ofJson_eq_ok_iff.mpr ⟨_, listed, rfl⟩, by decide⟩
  · exact declaresTag_of_lookup literalScansOf_classNamedScan "/app/a.tsx" rfl
  · exact declaresTag_of_lookup literalScansOf_classNamedScan "/app/b.tsx" rfl

end ElementTypings.Registry
