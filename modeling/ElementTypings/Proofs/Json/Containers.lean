import ElementTypings.Proofs.Json.Reads
import ElementTypings.Proofs.OrderedMap.Lookup
import ElementTypings.Registry.Writing

/-!
# Values that are written without spaces

The readers of optional values, lists, maps and records take what was written for them. A container
is written as its parts between brackets, a comma before every part but the first
(`Json.Reader.parts`), and is taken part by part. The fields of a record may be written in any order
and some may be left out, as long as each is known and none is repeated
(`Json.Reader.Record.Fills`).
-/

namespace ElementTypings.Json

namespace Reader

variable {Value : Type}

/-- The reader takes the text as the value, whatever follows. -/
def Takes (reader : Reader Value) (text : List Char) (value : Value) : Prop :=
  ∀ rest, Reads reader (text ++ rest) value rest

/-- A reader that hands on what another one takes takes the same text. -/
theorem Takes.into {Read : Type} {reader : Reader Read} {text : List Char} {value : Read}
    (takes : Takes reader text value) (into : Read → Value) :
    Takes (do return into (← reader)) text (into value) :=
  fun rest => (takes rest).bind (Reads.pure _ rest)

/-- The text starts with a character that neither a space nor the end of a list nor `null` does. -/
def Begins (text : List Char) : Prop :=
  ∃ char later, text = char :: later ∧ isSpace char = false ∧ char ≠ ']' ∧ char ≠ 'n'

/-- The parts of a container, with a comma before every part but the first. -/
def parts : (first : Bool) → List (List Char) → List Char
  | _, [] => []
  | first, part :: later => (if first then [] else [',']) ++ part ++ parts false later

/-- All parts of a container are joined by commas. -/
theorem parts_true (texts : List (List Char)) :
    parts true texts = List.intercalate [','] texts := by
  have more (first : List Char) (texts : List (List Char)) :
      List.intercalate [','] (first :: texts) = first ++ parts false texts := by
    induction texts generalizing first with
    | nil => simp [parts, List.intercalate]
    | cons text later ih =>
        rw [List.intercalate_cons_of_ne_nil (by simp), ih, parts]
        simp
  cases texts with
  | nil => rfl
  | cons first later => rw [more, parts, if_pos rfl, List.nil_append]

/-- A container has no more parts than characters, so a round for every character is enough. -/
theorem length_le_length_parts {texts : List (List Char)} (some : ∀ text ∈ texts, text ≠ [])
    (first : Bool) : texts.length ≤ (parts first texts).length := by
  induction texts generalizing first with
  | nil => exact Nat.zero_le _
  | cons text later ih =>
      have here := List.length_pos_iff.mpr (some text List.mem_cons_self)
      have rest := ih (fun other listed => some other (List.mem_cons_of_mem _ listed)) false
      rw [parts, List.length_append, List.length_append, List.length_cons]
      omega

/-- The number of rounds that a reader allows itself is beyond the number of characters left. -/
theorem reads_bound (text : List Char) : Reads bound text (text.length + 1) text :=
  fun index => ⟨index, rfl⟩

/-! ### Optional values -/

/-- An optional value is absent where `null` is written. -/
theorem takes_null (reader : Reader Value) :
    Takes (optional reader) "null".toList none := by
  intro rest
  refine (reads_peekToken rfl _).bind ((reads_advance _ _).bind ?_)
  exact (reads_letters ['u', 'l', 'l'] rest).bind (Reads.pure none rest)

/-- An optional value is the value wherever anything else is written. -/
theorem takes_some {reader : Reader Value} {text : List Char} {value : Value}
    (takes : Takes reader text value) (begins : Begins text) :
    Takes (optional reader) text (some value) := by
  intro rest
  obtain ⟨char, later, rfl, solid, -, full⟩ := begins
  refine (reads_peekToken solid _).bind ?_
  split
  · next same => exact absurd (Option.some.inj same) full
  · exact (takes rest).bind (Reads.pure _ rest)

/-! ### Between the parts -/

/-- A colon is taken between a key and its value. -/
theorem reads_colon (rest : List Char) : Reads colon (':' :: rest) () rest :=
  (reads_peekToken rfl _).bind (reads_advance _ _)

/-- The text of a key is taken up to its closing quote. -/
theorem reads_key (text : String) (rest : List Char) :
    Reads stringBody (text.toList.flatMap Literal.encodeChar ++ '"' :: rest) text rest := by
  have body := reads_stringBody text.toList rest
  rwa [String.ofList_toList] at body

/-- Another key is taken with the comma before it, or without one if it is the first. -/
theorem reads_nextKey (first : Bool) (key : String) (rest : List Char) :
    Reads (nextKey first) ((if first then [] else [',']) ++ (Literal.quoted key).toList ++ rest)
      (some key) rest := by
  have body : Reads (do return some (← stringBody))
      (key.toList.flatMap Literal.encodeChar ++ '"' :: rest) (some key) rest :=
    (reads_key key rest).bind (Reads.pure _ rest)
  rw [toList_quoted]
  simp only [List.append_assoc, List.cons_append, List.nil_append]
  cases first with
  | true => exact (reads_peekToken rfl _).bind ((reads_advance _ _).bind body)
  | false =>
      refine (reads_peekToken rfl _).bind ((reads_advance _ _).bind ?_)
      exact (reads_peekToken rfl _).bind ((reads_advance _ _).bind body)

/-- There is no other key where the object is closed. -/
theorem reads_nextKey_end (first : Bool) (rest : List Char) :
    Reads (nextKey first) ('}' :: rest) none ('}' :: rest) :=
  (reads_peekToken rfl _).bind (Reads.pure _ _)

/-- Another element is announced by the comma before it, or by nothing if it is the first. -/
theorem reads_nextElement (first : Bool) {text : List Char} (begins : Begins text)
    (rest : List Char) :
    Reads (nextElement first) ((if first then [] else [',']) ++ text ++ rest) true
      (text ++ rest) := by
  obtain ⟨char, later, rfl, solid, inside, -⟩ := begins
  simp only [List.append_assoc, List.cons_append]
  cases first with
  | true =>
      refine (reads_peekToken solid _).bind ?_
      split
      · next impossible => cases impossible
      · next same => exact absurd (Option.some.inj same) inside
      · next same =>
        cases same
        rw [if_neg (by simp)]
        exact Reads.pure _ _
  | false =>
      refine (reads_peekToken rfl _).bind ((reads_advance _ _).bind ?_)
      refine (reads_peekToken solid _).bind ?_
      split
      · next same => exact absurd (Option.some.inj same) inside
      · exact Reads.pure _ _
      · next impossible => cases impossible

/-- There is no other element where the list is closed. -/
theorem reads_nextElement_end (first : Bool) (rest : List Char) :
    Reads (nextElement first) (']' :: rest) false (']' :: rest) :=
  (reads_peekToken rfl _).bind (Reads.pure _ _)

/-! ### Lists -/

/-- The elements of a list are taken one by one, as long as the rounds last. -/
theorem reads_elements {reader : Reader Value} {text : Value → String} {values : List Value}
    (takes : ∀ value ∈ values,
      Takes reader (text value).toList value ∧ Begins (text value).toList)
    {rounds : Nat} (enough : values.length < rounds) (first : Bool) (rest : List Char) :
    Reads (elements reader rounds first)
      (parts first ((values.map text).map String.toList) ++ ']' :: rest) values (']' :: rest) := by
  induction values generalizing rounds first with
  | nil =>
      cases rounds with
      | zero => cases enough
      | succ rounds => exact (reads_nextElement_end first rest).bind (Reads.pure _ _)
  | cons value later ih =>
      cases rounds with
      | zero => cases enough
      | succ rounds =>
          obtain ⟨here, begins⟩ := takes value List.mem_cons_self
          have others := ih (fun other listed => takes other (List.mem_cons_of_mem _ listed))
            (Nat.lt_of_succ_lt_succ enough) false
          rw [List.map_cons, List.map_cons, parts, List.append_assoc]
          refine (reads_nextElement first begins _).bind ?_
          exact (here _).bind (others.bind (Reads.pure _ _))

theorem reads_endList (rest : List Char) : Reads endList (']' :: rest) () rest :=
  (reads_peekToken rfl _).bind (reads_advance _ _)

theorem reads_endObject (rest : List Char) : Reads endObject ('}' :: rest) () rest :=
  (reads_peekToken rfl _).bind (reads_advance _ _)

/-- The content of a container is taken up to its closing bracket, and the bracket with it. -/
theorem reads_within {content : Reader Value} {bracket : Bracket} {text rest : List Char}
    {value : Value} (taken : Reads content text value (bracket.closing :: rest)) :
    Reads (within bracket content) text value rest := by
  intro index
  obtain ⟨later, taken⟩ := taken index
  unfold within
  rw [taken]
  cases bracket with
  | list =>
      obtain ⟨behind, closed⟩ := reads_endList rest later
      exact ⟨behind, by dsimp only [Bracket.closing]; rw [closed]⟩
  | object =>
      obtain ⟨behind, closed⟩ := reads_endObject rest later
      exact ⟨behind, by dsimp only [Bracket.closing]; rw [closed]⟩

/-- A list is written as its parts between brackets. -/
theorem toList_listText (values : List String) :
    (Literal.listText values).toList = '[' :: (parts true (values.map String.toList) ++ [']']) := by
  rw [parts_true, Literal.listText, String.toList_append, String.toList_append,
    String.toList_intercalate]
  rfl

/-- A list is taken as the values that it was written for, if every value is. -/
theorem takes_list {reader : Reader Value} {text : Value → String} {values : List Value}
    (takes : ∀ value ∈ values,
      Takes reader (text value).toList value ∧ Begins (text value).toList) :
    Takes (list reader) (Literal.listText (values.map text)).toList values := by
  intro rest
  have some : ∀ part ∈ (values.map text).map String.toList, part ≠ [] := by
    rw [List.map_map]
    intro part listed
    obtain ⟨value, member, rfl⟩ := List.mem_map.mp listed
    obtain ⟨char, later, same, -⟩ := (takes value member).2
    rw [Function.comp_apply, same]
    exact List.cons_ne_nil _ _
  have least := length_le_length_parts some true
  rw [List.length_map, List.length_map] at least
  rw [toList_listText, List.cons_append, List.append_assoc]
  refine (reads_peekToken rfl _).bind ((reads_advance _ _).bind ((reads_bound _).bind ?_))
  refine reads_within (reads_elements takes ?_ true rest)
  rw [List.length_append]
  omega

/-! ### Maps -/

/-- A key and a value as an object holds them. -/
def fieldText (field : String × String) : List Char :=
  (Literal.quoted field.1).toList ++ ':' :: field.2.toList

/-- An object is written as its fields between braces. -/
theorem toList_objectText (fields : List (String × String)) :
    (Literal.objectText fields).toList =
      '\x7b' :: (parts true (fields.map fieldText) ++ ['\x7d']) := by
  have each : (fields.map fun field => Literal.quoted field.1 ++ ":" ++ field.2).map String.toList =
      fields.map fieldText := by
    rw [List.map_map]
    apply List.map_congr_left
    intro field _
    simp [fieldText]
  rw [parts_true, ← each, Literal.objectText, String.toList_append, String.toList_append,
    String.toList_intercalate]
  rfl

/-- A container has no more parts than characters. -/
theorem length_le_length_fields (fields : List (String × String)) (first : Bool) :
    fields.length ≤ (parts first (fields.map fieldText)).length := by
  have some : ∀ part ∈ fields.map fieldText, part ≠ [] := by
    intro part listed
    obtain ⟨field, -, rfl⟩ := List.mem_map.mp listed
    rw [fieldText, toList_quoted]
    exact List.cons_ne_nil _ _
  have least := length_le_length_parts some first
  rwa [List.length_map] at least

/-- The entries of a map are taken one by one and inserted in their order. -/
theorem reads_entries {reader : Reader Value} {text : Value → String}
    {entries : List (String × Value)}
    (takes : ∀ entry ∈ entries, Takes reader (text entry.2).toList entry.2) {rounds : Nat}
    (enough : entries.length < rounds) (first : Bool) (map : OrderedMap Value) (rest : List Char) :
    Reads (Reader.entries reader rounds first map)
      (parts first ((entries.map fun entry => (entry.1, text entry.2)).map fieldText) ++
        '\x7d' :: rest)
      (entries.foldl (fun map entry => map.insert entry.1 entry.2) map) ('\x7d' :: rest) := by
  induction entries generalizing rounds first map with
  | nil =>
      cases rounds with
      | zero => cases enough
      | succ rounds => exact (reads_nextKey_end first rest).bind (Reads.pure _ _)
  | cons entry later ih =>
      cases rounds with
      | zero => cases enough
      | succ rounds =>
          have others := ih (fun other listed => takes other (List.mem_cons_of_mem _ listed))
            (Nat.lt_of_succ_lt_succ enough) false (map.insert entry.1 entry.2)
          rw [List.map_cons, List.map_cons, parts, fieldText]
          simp only [List.append_assoc, List.cons_append]
          rw [← List.append_assoc]
          refine (reads_nextKey first entry.1 _).bind ((reads_colon _).bind ?_)
          exact (takes entry List.mem_cons_self _).bind others

/-- A map is taken as the map that it was written for, if every value is. -/
theorem takes_map {reader : Reader Value} {text : Value → String} (map : OrderedMap Value)
    (takes : ∀ entry ∈ map.entries, Takes reader (text entry.2).toList entry.2) :
    Takes (Reader.map reader)
      (Literal.objectText (map.entries.map fun entry => (entry.1, text entry.2))).toList map := by
  intro rest
  have least := length_le_length_fields (map.entries.map fun entry => (entry.1, text entry.2)) true
  rw [List.length_map] at least
  rw [toList_objectText, List.cons_append, List.append_assoc]
  refine (reads_peekToken rfl _).bind ((reads_advance _ _).bind ((reads_bound _).bind ?_))
  have enough : map.entries.length < (parts true
      ((map.entries.map fun entry => (entry.1, text entry.2)).map fieldText) ++
        (['\x7d'] ++ rest)).length + 1 := by
    rw [List.length_append]
    omega
  have taken := reads_entries takes enough true ∅ rest
  have same : map.entries.foldl (fun map entry => map.insert entry.1 entry.2) ∅ = map :=
    OrderedMap.ofList_entries map
  rw [same] at taken
  exact reads_within taken

/-! ### Records -/

namespace Record

variable {Draft : Type} {record : Record Draft Value}

/-- Written fields that are known and not repeated, and the draft that reading them gives; `seen`
lists the fields before them. -/
inductive Fills (record : Record Draft Value) :
    (seen : List String) → Draft → List (String × String) → Draft → Prop where
  | nil {seen : List String} {draft : Draft} : Fills record seen draft [] draft
  | cons {seen : List String} {draft next final : Draft} {field : Field Draft} {name text : String}
      {later : List (String × String)}
      (known : record.fields.find? (fun field => field.name == name) = some field)
      (fresh : name ∉ seen) (takes : Takes (field.read draft) text.toList next)
      (rest : Fills record (name :: seen) next later final) :
      Fills record seen draft ((name, text) :: later) final

/-- The fields of a record are taken one by one, each of them filling its place of the draft. -/
theorem reads_keyed {seen : List String} {draft final : Draft} {fields : List (String × String)}
    (fills : Fills record seen draft fields final) {rounds : Nat}
    (enough : fields.length < rounds) (first : Bool) (rest : List Char) :
    Reads (record.keyed rounds first seen draft)
      (parts first (fields.map fieldText) ++ '\x7d' :: rest) final ('\x7d' :: rest) := by
  induction fills generalizing rounds first with
  | nil =>
      cases rounds with
      | zero => cases enough
      | succ rounds => exact (reads_nextKey_end first rest).bind (Reads.pure _ _)
  | @cons seen draft next final field name text later known fresh takes _ ih =>
      cases rounds with
      | zero => cases enough
      | succ rounds =>
          have others := ih (Nat.lt_of_succ_lt_succ enough) false
          rw [List.map_cons, parts, fieldText]
          simp only [List.append_assoc, List.cons_append]
          rw [← List.append_assoc]
          refine (reads_nextKey first name _).bind ?_
          dsimp only
          rw [known]
          dsimp only
          rw [if_neg fresh]
          exact (reads_colon _).bind ((takes _).bind others)

/-- A record is taken from its fields. -/
theorem takes_read {fields : List (String × String)} {draft : Draft} {value : Value}
    (fills : Fills record [] record.start fields draft)
    (finishes : record.finish draft = .ok value) :
    Takes record.read (Literal.objectText fields).toList value := by
  intro rest
  have least := length_le_length_fields fields true
  rw [toList_objectText, List.cons_append, List.append_assoc]
  refine (reads_peekToken rfl _).bind ((reads_advance _ _).bind ?_)
  apply reads_within
  refine (reads_bound _).bind ((reads_keyed fills ?_ true rest).bind ?_)
  · rw [List.length_append]
    omega
  · unfold finished
    rw [finishes]
    exact Reads.pure _ _

end Record

/-! ### Words and documents -/

/-- A string literal is taken as its string wherever a string is expected. -/
theorem takes_string (expected text : String) :
    Takes (string expected) (Literal.quoted text).toList text :=
  reads_quoted expected text

/-- A known word is taken as what it stands for. -/
theorem takes_word {known : List String} {ofWord? : String → Option Value} {text : String}
    {value : Value} (stands : ofWord? text = some value) :
    Takes (word known ofWord?) (Literal.quoted text).toList value := by
  intro rest
  have taken := reads_quoted "variant identifier" text rest
  have begins : (Literal.quoted text).toList ++ rest = '"' ::
      (text.toList.flatMap Literal.encodeChar ++ ['"'] ++ rest) := by
    rw [toList_quoted]
    rfl
  rw [begins] at taken ⊢
  refine (reads_peekToken rfl _).bind (taken.bind ?_)
  rw [stands]
  exact Reads.pure _ _

/-- A string literal starts with its quote. -/
theorem begins_quoted (text : String) : Begins (Literal.quoted text).toList :=
  ⟨'"', _, toList_quoted text, by decide, by decide, by decide⟩

theorem begins_objectText (fields : List (String × String)) :
    Begins (Literal.objectText fields).toList :=
  ⟨'\x7b', _, toList_objectText fields, by decide, by decide, by decide⟩

end Reader

/-- A document that the reader takes as a whole is read. -/
theorem read_of_takes {Value : Type} {reader : Reader Value} {document : String} {value : Value}
    (takes : Reader.Takes reader document.toList value) : read reader document = .ok value := by
  have whole : Reader.Reads (Reader.document reader) (document.toList ++ []) value [] :=
    (takes []).bind (Reader.reads_peekToken_nil.bind (Reader.Reads.pure _ _))
  obtain ⟨later, whole⟩ := whole 0
  rw [List.append_nil] at whole
  unfold read Text.Cursor.start
  rw [whole]

end ElementTypings.Json
