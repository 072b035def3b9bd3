import ElementTypings.Json.Typed

/-!
# Entries as they are listed

A map that is read from an object forgets how often its keys were written. Its reader is the one
that lists the entries, followed by inserting them one after another
(`Json.Reader.map_eq_map_listing`), so what a map holds can be told from the entries as they stand
in the document (`Json.read_map`).
-/

namespace ElementTypings.Json

namespace Reader

variable {Value Shown : Type}

/-- The entries of an object up to its end as they are listed, repeated keys included. -/
def entryList (value : Reader Value) :
    (rounds : Nat) → (first : Bool) → Reader (List (String × Value))
  | 0, _ => fail .endOfObject
  | rounds + 1, first => do
    match ← nextKey first with
    | none => return []
    | some key =>
      colon
      let held ← value
      return (key, held) :: (← entryList value rounds false)

/-- The entries of an object as they are listed. -/
def listing (value : Reader Value) : Reader (List (String × Value)) := do
  match ← peekToken with
  | none => blame .endOfValue
  | some '{' =>
    advance
    within .object (entryList value (← bound) true)
  | some _ => refuseType "a map"

/-- The entries of a map are the listed ones, inserted one after another. -/
theorem entries_eq_map_entryList (value : Reader Value) (rounds : Nat) (first : Bool)
    (map : OrderedMap Value) :
    entries value rounds first map =
      (fun list => list.foldl (fun map entry => map.insert entry.1 entry.2) map) <$>
        entryList value rounds first := by
  induction rounds generalizing first map with
  | zero => rfl
  | succ rounds ih =>
      rw [entries, entryList, map_bind]
      congr 1
      funext key
      cases key with
      | none => rfl
      | some key => simp only [ih, map_bind, List.foldl_cons, bind_pure_comp, Functor.map_map]

/-- Showing what was read takes nothing from the document. -/
theorem map_apply (reader : Reader Value) (shown : Value → Shown) (cursor : Text.Cursor) :
    (shown <$> reader) cursor =
      (reader cursor).map fun read => (shown read.1, read.2) := by
  change (reader cursor >>= fun read => pure (shown read.1, read.2)) = _
  cases reader cursor with
  | error problem => rfl
  | ok read => rfl

theorem map_fail (fault : Fault) (shown : Value → Shown) : shown <$> fail fault = fail fault := rfl

theorem map_blame (fault : Fault) (shown : Value → Shown) : shown <$> blame fault = blame fault :=
  rfl

/-- What is refused is never shown. -/
theorem map_refuseType (expected : String) (shown : Value → Shown) :
    shown <$> refuseType expected = refuseType expected := by
  rw [refuseType, refuseType, map_bind]
  congr 1
  funext char
  split
  all_goals simp only [map_bind, map_fail, map_blame]
  split
  · simp only [map_bind, map_fail]
  · rfl

/-- What a reader reads may be shown before or after the end of the container. -/
theorem within_map (bracket : Bracket) (content : Reader Value) (shown : Value → Shown) :
    within bracket (shown <$> content) = shown <$> within bracket content := by
  funext cursor
  rw [map_apply, within, within, map_apply]
  cases content cursor with
  | error problem =>
      cases problem with
      | placed fault index => rfl
      | content fault inside => rfl
  | ok read =>
      cases bracket with
      | list =>
          dsimp only [Except.map]
          cases endList read.2 <;> rfl
      | object =>
          dsimp only [Except.map]
          cases endObject read.2 <;> rfl

/-- A map has the entries of the object, inserted one after another. -/
theorem map_eq_map_listing (value : Reader Value) :
    Reader.map value = OrderedMap.ofList <$> listing value := by
  rw [Reader.map, listing, map_bind]
  congr 1
  funext char
  split
  · rfl
  · simp only [entries_eq_map_entryList, within_map, map_bind]
    rfl
  · simp only [map_refuseType]

end Reader

variable {Value Shown : Type}

/-- What is read from a document may be shown before or after the end of the document. -/
theorem read_map (reader : Reader Value) (shown : Value → Shown) (document : String) :
    read (shown <$> reader) document = (read reader document).map shown := by
  have whole : Reader.document (shown <$> reader) = shown <$> Reader.document reader := by
    simp only [Reader.document, map_bind, bind_map_left]
    congr 1
    funext value
    congr 1
    funext char
    split
    · rfl
    · rfl
  unfold read
  rw [whole, Reader.map_apply]
  cases Reader.document reader (Text.Cursor.start document) with
  | error problem =>
      cases problem with
      | placed fault index => rfl
      | content fault inside => rfl
  | ok read => rfl

end ElementTypings.Json
