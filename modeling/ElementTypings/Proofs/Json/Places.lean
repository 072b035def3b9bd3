import ElementTypings.Proofs.Json.Gives
import ElementTypings.Proofs.Json.Listing
import ElementTypings.Proofs.Json.Literals

/-!
# The places of a reader

Readers only read on. A kind of place that is not left by reading one more character
(`Json.Reader.Onward`) is not left by any reader, so what is known of every place of a document may
be used for the values that are read there: a reader finds values with a property if, from such a
place, every value that it reads has the property, and the reader ends at such a place again
(`Json.Reader.Finds`). The readers of containers hand the property of their parts on.
-/

namespace ElementTypings.Json

open Text (Cursor)

namespace Reader

variable {First Second : Type} {place : Cursor → Prop} {property : First → Prop}
  {wanted : Second → Prop}

/-- Whoever reads one more character at such a place is at such a place again. -/
def Onward (place : Cursor → Prop) : Prop :=
  ∀ cursor, place cursor → place cursor.advance

/-- From such a place every value that is read has the property, and the reader ends at one. -/
def Finds (place : Cursor → Prop) (property : First → Prop) (reader : Reader First) : Prop :=
  ∀ cursor value next, place cursor → reader cursor = .ok (value, next) →
    property value ∧ place next

/-- The reader ends at such a place if it starts from one. -/
abbrev Stays (place : Cursor → Prop) (reader : Reader First) : Prop :=
  Finds place (fun _ => True) reader

/-- A reader that takes nothing stays where it is. -/
theorem Finds.pure {value : First} (holds : property value) :
    Finds place property (Pure.pure value) := by
  intro cursor _ _ here read
  cases read
  exact ⟨holds, here⟩

/-- The second of two readers starts at such a place as well, and may rely on what the first one
gave. -/
theorem Finds.bind {first : Reader First} {next : First → Reader Second}
    (finds : Finds place property first)
    (later : ∀ value, property value → Finds place wanted (next value)) :
    Finds place wanted (first >>= next) := by
  intro cursor result behind here read
  obtain ⟨value, middle, found, read⟩ := exists_of_bind read
  obtain ⟨holds, there⟩ := finds cursor value middle here found
  exact later value holds middle result behind there read

/-- Whatever the first step reads. -/
theorem Finds.after {first : Reader First} {next : First → Reader Second}
    (stays : Stays place first) (later : ∀ value, Finds place wanted (next value)) :
    Finds place wanted (first >>= next) :=
  stays.bind fun value _ => later value

/-- Where a reader ends does not hang on what is asked of its values. -/
theorem Finds.stays {reader : Reader First} (finds : Finds place property reader) :
    Stays place reader :=
  fun cursor value next here read => ⟨trivial, (finds cursor value next here read).2⟩

/-- Without any demand, a reader that takes nothing need not be looked at. -/
theorem stays_pure (value : First) : Stays place (Pure.pure value) :=
  .pure trivial

/-! ### Refusals -/

/-- A reader that fails ends nowhere. -/
theorem finds_fail (fault : Fault) : Finds place property (fail fault) :=
  nofun

/-- One that blames the next character ends nowhere either. -/
theorem finds_blame (fault : Fault) : Finds place property (blame fault) :=
  nofun

/-- Nor does one that refuses what it has read. -/
theorem finds_refuse (fault : Fault) : Finds place property (refuse fault) :=
  nofun

/-! ### Reading on -/

/-- Looking at the next character does not move. -/
theorem stays_peek : Stays place peek := by
  intro cursor value next here read
  cases read
  exact ⟨trivial, here⟩

/-- Asking for the place does not move. -/
theorem stays_get : Stays place (get : Reader Cursor) := by
  intro cursor value next here read
  cases read
  exact ⟨trivial, here⟩

/-- Counting what is left does not move. -/
theorem stays_bound : Stays place bound :=
  stays_get.after fun _ => stays_pure _

section

variable (onward : Onward place)

include onward

/-- Such a place is reached again behind any number of characters. -/
theorem Onward.behind (taken : List Char) {rest : List Char} {cursor : Cursor}
    (here : place cursor) (split : cursor.rest = taken ++ rest) :
    place { rest, index := cursor.index + Cursor.size taken } := by
  obtain ⟨text, index⟩ := cursor
  obtain rfl : text = taken ++ rest := split
  induction taken generalizing index with
  | nil => exact here
  | cons char later ih =>
      have next := ih (index + char.utf8Size) (onward _ here)
      rwa [Nat.add_assoc] at next

/-- It is reached behind the characters that are passed over for a condition. -/
theorem Onward.dropWhile (condition : Char → Bool) {cursor : Cursor} (here : place cursor) :
    place (cursor.dropWhile condition) :=
  onward.behind _ here List.takeWhile_append_dropWhile.symm

/-- A reader that moves by what it takes ends at such a place. -/
theorem Exact.stays {reader : Reader First} (exact : Exact reader) : Stays place reader := by
  intro cursor value next here read
  obtain ⟨taken, split, index, -⟩ := exact cursor value next read
  refine ⟨trivial, ?_⟩
  have there := onward.behind taken here split
  rwa [← index] at there

/-- One character is passed. -/
theorem stays_advance : Stays place advance := by
  intro cursor value next here read
  cases read
  exact ⟨trivial, onward cursor here⟩

/-- The spaces before the next token are passed. -/
theorem stays_peekToken : Stays place peekToken := by
  intro cursor value next here read
  cases read
  exact ⟨trivial, onward.dropWhile isSpace here⟩

/-- A word is passed letter by letter. -/
theorem stays_letters (word : List Char) : Stays place (letters word) := by
  induction word with
  | nil => exact stays_pure _
  | cons letter later ih =>
      refine stays_peek.after fun char => ?_
      split
      · exact finds_fail _
      · split
        · exact (stays_advance onward).after fun _ => ih
        · exact finds_blame _

/-- Digits are passed, each of them one byte. -/
theorem stays_digits : Stays place digits := by
  intro cursor value next here read
  cases read
  refine ⟨trivial, ?_⟩
  have there := onward.dropWhile Char.isDigit here
  rwa [Cursor.dropWhile, size_takeWhile_isDigit] at there

/-! ### Passing over a value -/

/-- A string is passed up to its closing quote, whatever escapes are in it. -/
theorem stays_skipString : Stays place skipString := by
  intro cursor value next here passed
  obtain ⟨behind, read, same⟩ := map_eq_ok_iff.mp passed
  cases same
  clear passed
  refine ⟨trivial, ?_⟩
  fun_induction skipStringRest cursor with
  | case1 => cases read
  | case2 cursor rest same =>
      cases read
      exact onward.behind ['"'] here same
  | case3 => cases read
  | case4 => cases read
  | case5 cursor rest same unit behind _ found _ ih =>
      refine ih ?_ read
      have there : place { rest, index := cursor.index + 2 } :=
        onward.behind ['\\', 'u'] here same
      exact (exact_unit.stays onward _ unit behind there (map_eq_ok_iff.mpr ⟨_, found, rfl⟩)).2
  | case6 cursor letter rest _ same known _ ih =>
      refine ih ?_ read
      obtain ⟨char, known⟩ := Option.isSome_iff_exists.mp known
      have there := onward.behind ['\\', letter] here same
      rwa [Text.size_cons, Text.size_cons, utf8Size_of_escaped? known] at there
  | case7 => cases read
  | case8 => cases read
  | case9 cursor char rest _ _ _ _ same _ _ ih =>
      exact ih (onward.behind [char] here same) read

/-- The power of a number is passed, with a sign or without. -/
theorem stays_skipExponent : Stays place skipExponent := by
  refine (stays_advance onward).after fun _ => stays_peek.after fun sign => ?_
  extract_lets power
  have stays (signed : Unit) : Stays place (power signed) := by
    refine stays_peek.after fun char => ?_
    split
    · exact finds_fail _
    · split
      · exact (stays_digits onward).after fun _ => stays_pure _
      · exact finds_blame _
  split
  · exact (stays_advance onward).after stays
  · exact (stays_advance onward).after stays
  · exact stays ()

/-- The fraction of a number is passed, and the power behind it if there is one. -/
theorem stays_skipFraction : Stays place skipFraction := by
  refine (stays_advance onward).after fun _ => (stays_digits onward).after fun found => ?_
  split
  · exact finds_blame _
  · refine stays_peek.after fun char => ?_
    split
    · exact stays_skipExponent onward
    · exact stays_skipExponent onward
    · exact stays_pure _

/-- A number is passed, part by part. -/
theorem stays_skipNumber : Stays place skipNumber := by
  refine stays_peek.after fun char => ?_
  extract_lets fraction
  have stays (whole : Unit) : Stays place (fraction whole) := by
    refine stays_peek.after fun char => ?_
    split
    · exact stays_skipFraction onward
    · exact stays_skipExponent onward
    · exact stays_skipExponent onward
    · exact stays_pure _
  split
  · exact (finds_fail _).after stays
  · refine (stays_advance onward).after fun _ => stays_peek.after fun next => ?_
    split
    · exact (finds_blame _).after stays
    · exact stays ()
  · split
    · exact ((stays_digits onward).after fun _ => stays_pure _).after stays
    · exact (finds_blame _).after stays

/-- A key is passed with the colon behind it. -/
theorem stays_skipKey : Stays place skipKey := by
  refine (stays_peekToken onward).after fun char => ?_
  extract_lets key
  have stays (opened : Unit) : Stays place (key opened) := by
    refine (stays_skipString onward).after fun _ => (stays_peekToken onward).after fun char => ?_
    split
    · exact stays_advance onward
    · exact finds_blame _
    · exact finds_blame _
  split
  · exact (stays_advance onward).after stays
  · exact (finds_blame _).after stays
  · exact (finds_blame _).after stays

/-- A value without parts is passed, and of one with parts the bracket that opens it. -/
theorem stays_skipScalar : Stays place skipScalar := by
  refine (stays_peekToken onward).after fun char => ?_
  have word (letters : List Char) : Stays place (do
      advance
      Reader.letters letters
      return (none : Option Bracket)) :=
    (stays_advance onward).after fun _ => (stays_letters onward letters).after fun _ => stays_pure _
  split
  · exact finds_blame _
  · exact word _
  · exact word _
  · exact word _
  · exact (stays_advance onward).after fun _ =>
      (stays_skipNumber onward).after fun _ => stays_pure _
  · exact (stays_advance onward).after fun _ =>
      (stays_skipString onward).after fun _ => stays_pure _
  · exact (stays_advance onward).after fun _ => stays_pure _
  · exact (stays_advance onward).after fun _ => stays_pure _
  · split
    · exact (stays_skipNumber onward).after fun _ => stays_pure _
    · exact finds_blame _

/-- The brackets that close are passed, and the comma before the next part. -/
theorem stays_closeBrackets (separated : Bool) (brackets : List Bracket) :
    Stays place (closeBrackets separated brackets) := by
  induction brackets generalizing separated with
  | nil => exact stays_pure _
  | cons bracket outer ih =>
      refine (stays_peekToken onward).after fun char => ?_
      split
      · exact finds_blame _
      · split
        · exact (stays_advance onward).after fun _ => stays_pure _
        · split
          · exact (stays_advance onward).after fun _ => ih true
          · split
            · exact finds_blame _
            · exact stays_pure _

/-- The parts of a value are passed one after another, as long as the rounds last. -/
theorem stays_skipValues (rounds : Nat) (brackets : List Bracket) :
    Stays place (skipValues rounds brackets) := by
  induction rounds generalizing brackets with
  | zero => exact finds_fail _
  | succ rounds ih =>
      refine (stays_skipScalar onward).after fun opened => ?_
      refine (stays_closeBrackets onward _ _).after fun brackets => ?_
      split
      · exact stays_pure _
      · exact (stays_skipKey onward).after fun _ => ih _
      · exact ih _

/-- A value that nobody asks for is passed as a whole. -/
theorem stays_skipValue : Stays place skipValue :=
  stays_get.after fun _ => stays_skipValues onward _ []

/-! ### Single values -/

omit onward in
/-- Refusing a value of a wrong type gives nothing and ends nowhere. -/
theorem finds_refuseType (expected : String) : Finds place property (refuseType expected) :=
  fun cursor value next _ read => absurd read (refuseType_ne_ok expected cursor value next)

/-- A string is read up to its closing quote. -/
theorem stays_string (expected : String) : Stays place (string expected) := by
  refine (stays_peekToken onward).after fun char => ?_
  split
  · exact finds_blame _
  · exact (stays_advance onward).after fun _ => exact_stringBody.stays onward
  · exact finds_refuseType _

/-- A colon is passed with the spaces before it. -/
theorem stays_colon : Stays place colon := by
  refine (stays_peekToken onward).after fun char => ?_
  split
  · exact stays_advance onward
  · exact finds_blame _
  · exact finds_blame _

/-- A word is read, as a string or as the only key of an object. -/
theorem stays_word (known : List String) (ofWord? : String → Option First) :
    Stays place (word known ofWord?) := by
  unfold word
  extract_lets identifier
  have found : Stays place identifier := by
    refine (stays_string onward _).after fun name => ?_
    split
    · exact stays_pure _
    · exact finds_fail _
  refine (stays_peekToken onward).after fun char => ?_
  split
  · exact found
  · refine (stays_advance onward).after fun _ => found.after fun value => ?_
    refine (stays_colon onward).after fun _ => (stays_peekToken onward).after fun char => ?_
    extract_lets answer closing
    have answers (closed : Unit) : Stays place (answer closed) := stays_pure value
    have closes (passed : Unit) : Stays place (closing passed) := by
      refine (stays_peekToken onward).after fun char => ?_
      split
      · exact (stays_advance onward).after answers
      · exact (finds_fail _).after answers
      · exact (finds_fail _).after answers
    split
    · exact (finds_blame _).after closes
    · exact (stays_advance onward).after fun _ => (stays_letters onward _).after closes
    · exact (finds_refuseType _).after closes
  · exact finds_blame _
  · exact finds_blame _

/-- An optional value has the property if it is there. -/
theorem finds_optional {reader : Reader First} (finds : Finds place property reader) :
    Finds place (fun found => ∀ value, found = some value → property value) (optional reader) := by
  refine (stays_peekToken onward).after fun char => ?_
  split
  · exact (stays_advance onward).after fun _ =>
      (stays_letters onward _).after fun _ => .pure nofun
  · exact finds.bind fun value holds => .pure fun _ same => Option.some.inj same ▸ holds

/-! ### Containers -/

/-- The next key is read, and the comma before it unless it is the first. -/
theorem stays_nextKey (first : Bool) : Stays place (nextKey first) := by
  have key : Stays place (do advance; return some (← stringBody)) :=
    (stays_advance onward).after fun _ =>
      (exact_stringBody.stays onward).after fun _ => stays_pure _
  refine (stays_peekToken onward).after fun char => ?_
  split
  · exact finds_blame _
  · exact stays_pure _
  · split
    · refine (stays_advance onward).after fun _ => (stays_peekToken onward).after fun char => ?_
      split
      · exact key
      · exact finds_blame _
      · exact finds_blame _
      · exact finds_blame _
    · split
      · exact finds_blame _
      · split
        · exact key
        · exact finds_blame _

/-- The comma before the next element is passed unless the element is the first. -/
theorem stays_nextElement (first : Bool) : Stays place (nextElement first) := by
  refine (stays_peekToken onward).after fun char => ?_
  split
  · exact finds_blame _
  · exact stays_pure _
  · split
    · refine (stays_advance onward).after fun _ => (stays_peekToken onward).after fun char => ?_
      split
      · exact finds_blame _
      · exact stays_pure _
      · exact finds_blame _
    · split
      · exact stays_pure _
      · exact finds_blame _

theorem stays_endObject : Stays place endObject := by
  refine (stays_peekToken onward).after fun char => ?_
  split
  · exact stays_advance onward
  · exact finds_blame _
  · exact finds_blame _
  · exact finds_blame _

theorem stays_endList : Stays place endList := by
  refine (stays_peekToken onward).after fun char => ?_
  split
  · exact stays_advance onward
  · refine (stays_advance onward).after fun _ => (stays_peekToken onward).after fun char => ?_
    split
    · exact finds_blame _
    · exact finds_blame _
  · exact finds_blame _
  · exact finds_blame _

/-- What stands between brackets has the property that its reader gives it. -/
theorem finds_within {bracket : Bracket} {content : Reader First}
    (finds : Finds place property content) : Finds place property (within bracket content) := by
  intro cursor value behind here read
  unfold within at read
  split at read
  · cases read
  · cases read
  · next found next taken =>
    obtain ⟨holds, there⟩ := finds cursor found next here taken
    split at read
    · cases read
    · next closed =>
      cases read
      cases bracket with
      | list => exact ⟨holds, (stays_endList onward next _ _ there closed).2⟩
      | object => exact ⟨holds, (stays_endObject onward next _ _ there closed).2⟩

/-- Every element of a list has the property. -/
theorem finds_elements {reader : Reader First} (finds : Finds place property reader) (rounds : Nat)
    (first : Bool) :
    Finds place (fun values => ∀ value ∈ values, property value)
      (elements reader rounds first) := by
  induction rounds generalizing first with
  | zero => exact finds_fail _
  | succ rounds ih =>
      refine (stays_nextElement onward first).after fun more => ?_
      split
      · refine finds.bind fun value holds => (ih false).bind fun later others => .pure ?_
        exact List.forall_mem_cons.mpr ⟨holds, others⟩
      · exact .pure nofun

/-- So has every value of a list that is read as a whole. -/
theorem finds_list {reader : Reader First} (finds : Finds place property reader) :
    Finds place (fun values => ∀ value ∈ values, property value) (list reader) := by
  refine (stays_peekToken onward).after fun char => ?_
  split
  · exact finds_blame _
  · exact (stays_advance onward).after fun _ => stays_bound.after fun rounds =>
      finds_within onward (finds_elements onward finds rounds true)
  · exact finds_refuseType _

/-- Every value in the list of entries has the property. -/
theorem finds_entryList {reader : Reader First} (finds : Finds place property reader)
    (rounds : Nat) (first : Bool) :
    Finds place (fun entries => ∀ entry ∈ entries, property entry.2)
      (entryList reader rounds first) := by
  induction rounds generalizing first with
  | zero => exact finds_fail _
  | succ rounds ih =>
      refine (stays_nextKey onward first).after fun key => ?_
      split
      · exact .pure nofun
      · refine (stays_colon onward).after fun _ => finds.bind fun value holds => ?_
        refine (ih false).bind fun later others => .pure ?_
        exact List.forall_mem_cons.mpr ⟨holds, others⟩

/-- So has every value of an object whose entries are listed. -/
theorem finds_listing {reader : Reader First} (finds : Finds place property reader) :
    Finds place (fun entries => ∀ entry ∈ entries, property entry.2) (listing reader) := by
  refine (stays_peekToken onward).after fun char => ?_
  split
  · exact finds_blame _
  · exact (stays_advance onward).after fun _ => stays_bound.after fun rounds =>
      finds_within onward (finds_entryList onward finds rounds true)
  · exact finds_refuseType _

/-- A map that is read has the property throughout. -/
theorem finds_map {reader : Reader First} (finds : Finds place property reader) :
    Finds place (EachValue property) (Reader.map reader) := by
  rw [map_eq_map_listing]
  exact (finds_listing onward finds).bind fun entries each => .pure (eachValue_ofList each)

/-! ### Records -/

namespace Record

variable {Draft Value : Type} {record : Record Draft Value} {kept : Draft → Prop}
  {result : Value → Prop}

/-- What every field keeps of a draft is kept by all the fields that an object gives. -/
theorem finds_keyed (keeps : ∀ field ∈ record.fields, ∀ draft, kept draft →
      Finds place kept (field.read draft)) (rounds : Nat) (first : Bool) (seen : List String)
    {draft : Draft} (start : kept draft) :
    Finds place kept (record.keyed rounds first seen draft) := by
  induction rounds generalizing first seen draft with
  | zero => exact finds_fail _
  | succ rounds ih =>
      refine (stays_nextKey onward first).after fun key => ?_
      split
      · exact .pure start
      · split
        · exact (stays_colon onward).after fun _ =>
            (stays_skipValue onward).after fun _ => ih false seen start
        · next field found =>
          split
          · exact finds_refuse _
          · have listed := List.mem_of_find?_eq_some found
            exact (stays_colon onward).after fun _ =>
              (keeps field listed draft start).bind fun next holds => ih false _ holds

/-- It is kept by the fields that a list gives in their order, too. -/
theorem finds_listed {fields : List (Field Draft)} (keeps : ∀ field ∈ fields, ∀ draft, kept draft →
      Finds place kept (field.read draft)) (before : Nat) {draft : Draft} (start : kept draft) :
    Finds place kept (record.listed before fields draft) := by
  induction fields generalizing before draft with
  | nil => exact .pure start
  | cons field later ih =>
      have others := fun other listed => keeps other (List.mem_cons_of_mem _ listed)
      refine (stays_nextElement onward _).after fun more => ?_
      split
      · exact (keeps field List.mem_cons_self draft start).bind fun next holds =>
          ih others (before + 1) holds
      · split
        · exact finds_refuse _
        · exact ih others (before + 1) start

/-- A record has a property if the drafts have one, from the start on and after every field, from
which that of the record follows. -/
theorem finds_read (start : kept record.start)
    (keeps : ∀ field ∈ record.fields, ∀ draft, kept draft → Finds place kept (field.read draft))
    (finishes : ∀ draft value, kept draft → record.finish draft = .ok value → result value) :
    Finds place result record.read := by
  have finished (draft : Draft) (holds : kept draft) :
      Finds place result (record.finished draft) := by
    unfold Record.finished
    split
    · next value same => exact .pure (finishes draft value holds same)
    · exact finds_refuse _
  refine (stays_peekToken onward).after fun char => ?_
  split
  · exact finds_blame _
  · refine (stays_advance onward).after fun _ => finds_within onward ?_
    refine stays_bound.after fun rounds => ?_
    exact (finds_keyed onward keeps rounds true [] start).bind finished
  · refine (stays_advance onward).after fun _ => finds_within onward ?_
    exact (finds_listed onward keeps 0 start).bind finished
  · exact finds_refuseType _

/-- A record is read up to its end if each of its fields is. -/
theorem stays_read (keeps : ∀ field ∈ record.fields, ∀ draft, Stays place (field.read draft)) :
    Stays place record.read :=
  finds_read onward trivial (fun field listed draft _ => keeps field listed draft)
    fun _ _ _ _ => trivial

end Record

end

/-! ### Anywhere -/

/-- What is given from anywhere is found at places of any kind that are all places. -/
theorem gives_iff_finds {reader : Reader First} :
    Gives property reader ↔ Finds (fun _ => True) property reader := by
  constructor
  · exact fun gives cursor value next _ read => ⟨gives cursor value next read, trivial⟩
  · exact fun finds cursor value next read => (finds cursor value next trivial read).1

/-- Anywhere is a kind of place that is not left. -/
theorem onward_anywhere : Onward fun _ => True :=
  fun _ _ => trivial

/-- Whatever the place, an optional value that is given has the property. -/
theorem gives_optional {reader : Reader First} (gives : Gives property reader) :
    Gives (fun found => ∀ value, found = some value → property value) (optional reader) :=
  gives_iff_finds.mpr (finds_optional onward_anywhere (gives_iff_finds.mp gives))

/-- Whatever the place, every value of a list that is given has it. -/
theorem gives_list {reader : Reader First} (gives : Gives property reader) :
    Gives (fun values => ∀ value ∈ values, property value) (list reader) :=
  gives_iff_finds.mpr (finds_list onward_anywhere (gives_iff_finds.mp gives))

/-- Whatever the place, every value of a map that is given has it. -/
theorem gives_map {reader : Reader First} (gives : Gives property reader) :
    Gives (EachValue property) (Reader.map reader) :=
  gives_iff_finds.mpr (finds_map onward_anywhere (gives_iff_finds.mp gives))

/-- A record has a property if the drafts have one, from the start on and after every field, from
which that of the record follows. -/
theorem Record.gives_read {Draft Value : Type} {record : Record Draft Value} {kept : Draft → Prop}
    {result : Value → Prop} (start : kept record.start)
    (keeps : ∀ field ∈ record.fields, ∀ draft, kept draft → Gives kept (field.read draft))
    (finishes : ∀ draft value, kept draft → record.finish draft = .ok value → result value) :
    Gives result record.read := by
  refine gives_iff_finds.mpr (finds_read onward_anywhere start ?_ finishes)
  exact fun field listed draft holds => gives_iff_finds.mp (keeps field listed draft holds)

end Reader

variable {Value : Type} {property : Value → Prop} {reader : Reader Value}

/-- What is read from a document has the property that is found from the start of the document. -/
theorem holds_of_finds {place : Cursor → Prop} (onward : Reader.Onward place)
    (finds : Reader.Finds place property reader) {document : String}
    (start : place (Cursor.start document)) {value : Value}
    (accepted : read reader document = .ok value) : property value := by
  have whole : Reader.Finds place property (Reader.document reader) := by
    refine finds.bind fun value holds => (Reader.stays_peekToken onward).after fun char => ?_
    split
    · exact Reader.finds_blame _
    · exact .pure holds
  unfold read at accepted
  dsimp only at accepted
  split at accepted
  · next taken =>
    cases accepted
    exact (whole _ _ _ start taken).1
  · cases accepted
  · cases accepted

/-- A value that was read from a document has the property that its reader gives. -/
theorem holds_of_read (gives : Reader.Gives property reader) {document : String} {value : Value}
    (accepted : read reader document = .ok value) : property value :=
  holds_of_finds Reader.onward_anywhere (Reader.gives_iff_finds.mp gives) trivial accepted

end ElementTypings.Json
