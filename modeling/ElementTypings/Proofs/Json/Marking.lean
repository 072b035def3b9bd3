import ElementTypings.Proofs.Json.Places
import ElementTypings.Proofs.Text.Search

/-!
# Where a field stands in its document

A reader may be marked: it then gives the part of the document that it takes as well, its text and
the byte at which it starts (`Json.Reader.marked`). A record is marked in one of its fields
(`Json.Reader.Record.marking`). Marks change nothing about what is read
(`Json.Reader.Record.map_read_marking`), and a part stands in the document where it is said to
(`Json.Reader.finds_marked`).
-/

namespace ElementTypings.Json

open Text (Cursor)

/-- A part of a document: the byte at which it starts, and its text. -/
structure Part where
  offset : Nat
  text : String
deriving DecidableEq, Repr

/-- The cursor is at a place of the document. -/
def IsIn (document : String) (cursor : Cursor) : Prop :=
  ∃ before, document.toList = before ++ cursor.rest ∧ cursor.index = Cursor.size before

/-- The start is a place of the document. -/
theorem isIn_start (document : String) : IsIn document (Cursor.start document) :=
  ⟨[], rfl, rfl⟩

namespace Reader

/-- Reading on stays in the document. -/
theorem onward_isIn (document : String) : Onward (IsIn document) := by
  rintro ⟨rest, index⟩ ⟨before, split, place⟩
  dsimp only at split place
  cases rest with
  | nil => exact ⟨before, split, place⟩
  | cons char later =>
      refine ⟨before ++ [char], ?_, ?_⟩
      · rw [split, List.append_assoc]
        rfl
      · rw [Text.size_append, ← place]
        rfl

variable {Value Shown : Type}

/-- Reads a value with the part of the document that it is read from, without the spaces before. -/
def marked (reader : Reader Value) : Reader (Value × Part) := do
  let _ ← peekToken
  let start ← get
  let value ← reader
  let stop ← get
  let text := start.rest.take (start.rest.length - stop.rest.length)
  return (value, { offset := start.index, text := String.ofList text })

/-- The field with the part of the document that it is read from, if it has the name. -/
def Field.marking {Draft : Type} (name : String) (field : Field Draft) :
    Field (Draft × Option Part) where
  name := field.name
  required := field.required
  read draft :=
    if field.name = name then do
      let (next, part) ← marked (field.read draft.1)
      return (next, some part)
    else do
      return (← field.read draft.1, draft.2)

/-- The record with the part of the document that the field of the name is read from. -/
def Record.marking {Draft : Type} (name : String) (record : Record Draft Value) :
    Record (Draft × Option Part) (Value × Option Part) where
  name := record.name
  fields := record.fields.map (Field.marking name)
  start := (record.start, none)
  finish draft := (record.finish draft.1).map fun value => (value, draft.2)

/-- No space follows where spaces have been dropped. -/
theorem solid_dropWhile (cursor : Cursor) :
    ∀ char, (cursor.dropWhile isSpace).rest.head? = some char → isSpace char = false := by
  intro char same
  have solid := List.head?_dropWhile_not isSpace cursor.rest
  rw [show (cursor.rest.dropWhile isSpace).head? = some char from same] at solid
  exact solid

/-! ### Values without marks -/

/-- The reader drops the spaces before its value itself. -/
def DropsSpaces (reader : Reader Value) : Prop :=
  (do let _ ← peekToken; reader) = reader

/-- Spaces are dropped once. -/
theorem dropsSpaces_peekToken (next : Option Char → Reader Value) :
    DropsSpaces (do next (← peekToken)) := by
  funext cursor
  have once : (cursor.dropWhile isSpace).dropWhile isSpace = cursor.dropWhile isSpace := by
    have solid := solid_dropWhile cursor
    generalize cursor.dropWhile isSpace = behind at solid
    obtain ⟨rest, index⟩ := behind
    cases rest with
    | nil => rfl
    | cons char later =>
        unfold Cursor.dropWhile
        rw [List.dropWhile_cons_of_neg (by simp [solid char rfl]),
          List.takeWhile_cons_of_neg (by simp [solid char rfl])]
        rfl
  change next _ ((cursor.dropWhile isSpace).dropWhile isSpace) = next _ _
  rw [once]

/-- A chain drops the spaces before it if its first reader does. -/
theorem DropsSpaces.bind {reader : Reader Value} (drops : DropsSpaces reader)
    (next : Value → Reader Shown) : DropsSpaces (reader >>= next) := by
  unfold DropsSpaces at drops ⊢
  rw [← bind_assoc, drops]

/-- The reader of a string drops the spaces before the string. -/
theorem dropsSpaces_string (expected : String) : DropsSpaces (string expected) :=
  dropsSpaces_peekToken _

/-- A mark changes nothing about the value, where the reader drops the spaces itself. -/
theorem map_fst_marked {reader : Reader Value} (drops : DropsSpaces reader) :
    Prod.fst <$> marked reader = reader := by
  funext cursor
  rw [map_apply]
  conv_rhs => rw [← drops]
  change Except.map _ (reader (cursor.dropWhile isSpace) >>= _) =
    reader (cursor.dropWhile isSpace)
  cases reader (cursor.dropWhile isSpace) with
  | error problem => rfl
  | ok read => rfl

/-- Whether an optional value is there does not hang on how it is shown. -/
theorem map_optional (reader : Reader Value) (shown : Value → Shown) :
    Option.map shown <$> optional reader = optional (shown <$> reader) := by
  simp only [optional, map_bind, bind_map_left]
  congr 1
  funext char
  split
  · simp only [map_bind, map_pure, Option.map_none]
  · simp only [map_bind, map_pure, Option.map_some]

/-- Listing entries and showing their values may change places. -/
theorem map_entryList (reader : Reader Value) (shown : Value → Shown) (rounds : Nat)
    (first : Bool) :
    List.map (Prod.map id shown) <$> entryList reader rounds first =
      entryList (shown <$> reader) rounds first := by
  induction rounds generalizing first with
  | zero => rfl
  | succ rounds ih =>
      rw [entryList, entryList, map_bind]
      congr 1
      funext key
      cases key with
      | none => rw [map_pure, List.map_nil]
      | some key =>
          simp only [← ih, map_bind, bind_map_left, map_pure, List.map_cons, Prod.map_apply, id]

/-- So may listing the entries of an object. -/
theorem map_listing (reader : Reader Value) (shown : Value → Shown) :
    List.map (Prod.map id shown) <$> listing reader = listing (shown <$> reader) := by
  rw [listing, listing, map_bind]
  congr 1
  funext char
  split
  · rfl
  · simp only [← map_entryList, within_map, map_bind]
  · simp only [map_refuseType]

section

variable {Draft : Type} {name : String}

/-- A marked field is read as it is without the mark. -/
theorem Field.map_read_marking {field : Field Draft}
    (drops : field.name = name → ∀ draft, DropsSpaces (field.read draft))
    (draft : Draft × Option Part) :
    Prod.fst <$> (field.marking name).read draft = field.read draft.1 := by
  unfold Field.marking
  dsimp only
  split
  · next named =>
    conv_rhs => rw [← map_fst_marked (drops named draft.1)]
    simp only [bind_pure_comp, Functor.map_map]
  · simp only [bind_pure_comp, Functor.map_map, id_map']

namespace Record

variable {record : Record Draft Value}
  (drops : ∀ field ∈ record.fields, field.name = name → ∀ draft, DropsSpaces (field.read draft))

include drops

/-- The fields of a marked record are read as they are without the mark, where they are given by
keys. -/
theorem map_keyed_marking (rounds : Nat) (first : Bool) (seen : List String)
    (draft : Draft × Option Part) :
    Prod.fst <$> (record.marking name).keyed rounds first seen draft =
      record.keyed rounds first seen draft.1 := by
  have same (key : String) : (record.marking name).fields.find? (fun field => field.name == key) =
      (record.fields.find? fun field => field.name == key).map (Field.marking name) :=
    List.find?_map ..
  induction rounds generalizing first seen draft with
  | zero => rfl
  | succ rounds ih =>
      rw [keyed, keyed, map_bind]
      congr 1
      funext key
      cases key with
      | none => rfl
      | some key =>
          dsimp only
          rw [same]
          cases found : record.fields.find? fun field => field.name == key with
          | none => simp only [Option.map_none, map_bind, ih]
          | some field =>
              have listed := List.mem_of_find?_eq_some found
              simp only [Option.map_some]
              split
              · rfl
              · simp only [map_bind, ih]
                rw [← Field.map_read_marking (drops field listed) draft]
                simp only [bind_map_left]

omit drops in
/-- They are read as they are without the mark where they are listed in order, too. -/
theorem map_listed_marking (before : Nat) {fields : List (Field Draft)}
    (drops : ∀ field ∈ fields, field.name = name → ∀ draft, DropsSpaces (field.read draft))
    (draft : Draft × Option Part) :
    Prod.fst <$> (record.marking name).listed before (fields.map (Field.marking name)) draft =
      record.listed before fields draft.1 := by
  induction fields generalizing before draft with
  | nil => rfl
  | cons field later ih =>
      have others := fun other listed => drops other (List.mem_cons_of_mem _ listed)
      rw [List.map_cons, listed, listed, map_bind]
      congr 1
      funext more
      cases more with
      | true =>
          simp only [if_true, map_bind, ih _ others]
          rw [← Field.map_read_marking (drops field List.mem_cons_self) draft]
          simp only [bind_map_left]
      | false =>
          simp only [Bool.false_eq_true, if_false]
          change _ <$> (if field.required then _ else _) = if field.required then _ else _
          split
          · have size : (record.marking name).fields.length = record.fields.length :=
              List.length_map _
            rw [size]
            rfl
          · exact ih _ others draft

omit drops in
/-- A marked record is finished as it is without the mark. -/
theorem map_finished_marking (draft : Draft × Option Part) :
    Prod.fst <$> (record.marking name).finished draft = record.finished draft.1 := by
  unfold finished marking
  dsimp only
  cases record.finish draft.1 with
  | error field => rfl
  | ok value => rfl

/-- A record is read as it is without marks. -/
theorem map_read_marking : Prod.fst <$> (record.marking name).read = record.read := by
  rw [read, read, map_bind]
  congr 1
  funext char
  split
  · rfl
  · simp only [map_bind, ← within_map, map_finished_marking]
    simp only [← map_keyed_marking drops _ _ _ (record.start, none), bind_map_left]
    rfl
  · simp only [map_bind, ← within_map, map_finished_marking]
    simp only [← map_listed_marking _ drops (record.start, none), bind_map_left]
    rfl
  · simp only [map_refuseType]
    rfl

end Record

end

/-! ### Parts in place -/

/-- A string is expected and its quote is there, so its characters follow. -/
theorem string_quote (expected : String) (rest : List Char) (index : Nat) :
    string expected { rest := ['"'] ++ rest, index } = stringBody { rest, index := index + 1 } :=
  rfl

/-- A string that no space precedes is taken from its literal. -/
theorem takenAt_string {expected value : String} {cursor behind : Cursor}
    (solid : ∀ char, cursor.rest.head? = some char → isSpace char = false)
    (read : string expected cursor = .ok (value, behind)) :
    TakenAt (string expected) cursor value behind := by
  obtain ⟨text, index⟩ := cursor
  cases text with
  | nil => cases read
  | cons char rest =>
      by_cases quote : char = '"'
      · subst quote
        exact .behind _ (string_quote expected) (exact_stringBody _ _ _ read)
      · unfold string at read
        obtain ⟨token, middle, peeked, read⟩ := exists_of_bind read
        obtain ⟨later, known⟩ := reads_peekToken (solid char rfl) rest index
        cases known.symm.trans peeked
        simp only at read
        exact absurd read (refuseType_ne_ok expected _ _ _)

/-- The part that is given with a value starts behind the spaces and ends where the reader
stopped. -/
theorem marked_eq_ok {reader : Reader Value} {cursor next : Cursor} {found : Value × Part}
    (read : marked reader cursor = .ok (found, next)) :
    reader (cursor.dropWhile isSpace) = .ok (found.1, next) ∧
      ∀ taken, (cursor.dropWhile isSpace).rest = taken ++ next.rest →
        found.2 = { offset := (cursor.dropWhile isSpace).index, text := String.ofList taken } := by
  change reader (cursor.dropWhile isSpace) >>= _ = _ at read
  obtain ⟨⟨value, stop⟩, inner, same⟩ := bind_eq_ok_iff.mp read
  cases same
  refine ⟨inner, fun taken split => ?_⟩
  have length : (cursor.dropWhile isSpace).rest.length - next.rest.length = taken.length := by
    rw [split, List.length_append, Nat.add_sub_cancel]
  rw [length, split, List.take_left]

/-- The part that a string is read from stands in the document, and is taken as the string. -/
theorem finds_marked (document expected : String) (into : String → Shown) :
    Finds (IsIn document)
      (fun found => ∃ value, found.1 = into value ∧
        Text.StandsAt found.2.text document found.2.offset ∧
        Takes (string expected) found.2.text.toList value)
      (marked do return into (← string expected)) := by
  intro cursor found next here read
  obtain ⟨read, part⟩ := marked_eq_ok read
  obtain ⟨value, stop, inner, same⟩ := exists_of_bind read
  obtain ⟨shown, rfl⟩ := Prod.mk.inj (Except.ok.inj same)
  obtain ⟨taken, split, place, takes⟩ := takenAt_string (solid_dropWhile cursor) inner
  have there := (onward_isIn document).dropWhile isSpace here
  refine ⟨⟨value, shown.symm, ?_, ?_⟩, ?_⟩
  · obtain ⟨before, whole, start⟩ := there
    rw [part taken split]
    refine ⟨before, stop.rest, ?_, start.symm⟩
    rw [String.toList_ofList, ← split, whole]
  · rw [part taken split, String.toList_ofList]
    exact takes
  · have behind := (onward_isIn document).behind taken there split
    rwa [← place] at behind

end Reader

end ElementTypings.Json
