/-!
# Maps in insertion order

A map from names to values that lists its entries in the order in which their names came first.
Inserting a name again gives it the new value and leaves it where it is. No name is listed twice.
-/

namespace ElementTypings

/-- A map that remembers the order in which its keys were inserted. -/
structure OrderedMap (Value : Type) where
  entries : List (String × Value)
  keys_nodup : (entries.map Prod.fst).Nodup
deriving DecidableEq

namespace OrderedMap

variable {Value : Type}

/-- Entries in which a key has got a value: in place if it was there, at the end otherwise. -/
def insertEntry (key : String) (value : Value) :
    List (String × Value) → List (String × Value)
  | [] => [(key, value)]
  | (found, old) :: later =>
    if found = key then (key, value) :: later else (found, old) :: insertEntry key value later

/-- The keys behind an insertion are those of before and its own. -/
theorem mem_keys_insertEntry {key other : String} {value : Value}
    {entries : List (String × Value)} :
    other ∈ (insertEntry key value entries).map Prod.fst ↔
      other = key ∨ other ∈ entries.map Prod.fst := by
  induction entries with
  | nil => simp [insertEntry]
  | cons entry later ih =>
    obtain ⟨found, old⟩ := entry
    by_cases same : found = key
    · subst same
      simp [insertEntry]
    · simp only [insertEntry, if_neg same, List.map_cons, List.mem_cons, ih]
      grind

theorem nodup_keys_insertEntry {key : String} {value : Value} {entries : List (String × Value)}
    (distinct : (entries.map Prod.fst).Nodup) :
    ((insertEntry key value entries).map Prod.fst).Nodup := by
  induction entries with
  | nil => simp [insertEntry]
  | cons entry later ih =>
    obtain ⟨found, old⟩ := entry
    rw [List.map_cons, List.nodup_cons] at distinct
    by_cases same : found = key
    · subst same
      simpa [insertEntry] using distinct
    · rw [insertEntry, if_neg same, List.map_cons, List.nodup_cons]
      refine ⟨fun member => ?_, ih distinct.2⟩
      rcases mem_keys_insertEntry.mp member with equal | present
      · exact same equal
      · exact distinct.1 present

/-- The map without entries. -/
def empty : OrderedMap Value :=
  ⟨[], List.nodup_nil⟩

instance : EmptyCollection (OrderedMap Value) := ⟨empty⟩

instance : Inhabited (OrderedMap Value) := ⟨empty⟩

/-- The map in which a key has got a value. -/
def insert (map : OrderedMap Value) (key : String) (value : Value) : OrderedMap Value :=
  ⟨insertEntry key value map.entries, nodup_keys_insertEntry map.keys_nodup⟩

/-- The value of a key. -/
def lookup? (map : OrderedMap Value) (key : String) : Option Value :=
  map.entries.lookup key

/-- The keys, in order. -/
def keys (map : OrderedMap Value) : List String :=
  map.entries.map Prod.fst

/-- The values, in the order of their keys. -/
def values (map : OrderedMap Value) : List Value :=
  map.entries.map Prod.snd

/-- The number of keys. -/
def size (map : OrderedMap Value) : Nat :=
  map.entries.length

/-- Whether the map has no key. -/
def isEmpty (map : OrderedMap Value) : Bool :=
  map.entries.isEmpty

/-- The map into which the entries were inserted one after another. -/
def ofList (entries : List (String × Value)) : OrderedMap Value :=
  entries.foldl (fun map entry => map.insert entry.1 entry.2) empty

end OrderedMap

end ElementTypings
