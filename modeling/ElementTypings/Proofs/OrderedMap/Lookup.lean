import ElementTypings.OrderedMap
import Mathlib.Data.List.Basic
import Mathlib.Data.List.Induction

/-!
# Looking up keys

What a map answers after an insertion: the inserted key has its new value and every other key has
the value it had (`OrderedMap.lookup?_insert`). Looking a key up finds its entry
(`OrderedMap.lookup?_eq_some_iff`), so entries and look-ups tell the same about a map.

A map whose values are lists also stands for one list, that of all values one after another. Adding
one element to the list of a key adds it to that list as well, somewhere
(`OrderedMap.flatten_values_insert_perm`).
-/

namespace ElementTypings.OrderedMap

variable {Value : Type}

theorem lookup_cons_of_ne {key found : String} (different : key ≠ found) (held : Value)
    (later : List (String × Value)) :
    ((found, held) :: later).lookup key = later.lookup key := by
  rw [List.lookup_cons, beq_eq_false_iff_ne.mpr different]

theorem lookup_map {Shown : Type} (shown : Value → Shown) (entries : List (String × Value))
    (key : String) :
    (entries.map (Prod.map id shown)).lookup key = (entries.lookup key).map shown := by
  induction entries with
  | nil => rfl
  | cons entry later ih =>
      obtain ⟨found, held⟩ := entry
      rw [List.map_cons, Prod.map_apply, id]
      by_cases same : key = found
      · subst same
        rw [List.lookup_cons_self, List.lookup_cons_self, Option.map_some]
      · rw [lookup_cons_of_ne same, lookup_cons_of_ne same, ih]

theorem mem_of_lookup {entries : List (String × Value)} {key : String} {value : Value}
    (found : entries.lookup key = some value) : (key, value) ∈ entries := by
  obtain ⟨before, after, rfl, -⟩ := List.lookup_eq_some_iff.mp found
  exact List.mem_append_right before List.mem_cons_self

/-- Behind an insertion its key has the new value and every other key its old one. -/
theorem lookup_insertEntry (key other : String) (value : Value)
    (entries : List (String × Value)) :
    (insertEntry key value entries).lookup other =
      if other = key then some value else entries.lookup other := by
  induction entries with
  | nil =>
      by_cases same : other = key
      · simp [insertEntry, same]
      · rw [insertEntry, lookup_cons_of_ne same, if_neg same]
  | cons entry later ih =>
      obtain ⟨found, old⟩ := entry
      by_cases present : found = key
      · subst present
        by_cases same : other = found
        · simp [insertEntry, same]
        · simp only [insertEntry, ↓reduceIte, lookup_cons_of_ne same, same]
      · rw [insertEntry, if_neg present]
        by_cases here : other = found
        · subst here
          simp [present]
        · rw [lookup_cons_of_ne here, lookup_cons_of_ne here, ih]

/-- After an insertion the key has the new value, and every other key the value it had. -/
theorem lookup?_insert (map : OrderedMap Value) (key other : String) (value : Value) :
    (map.insert key value).lookup? other = if other = key then some value else map.lookup? other :=
  lookup_insertEntry key other value map.entries

@[simp]
theorem lookup?_insert_self (map : OrderedMap Value) (key : String) (value : Value) :
    (map.insert key value).lookup? key = some value := by
  rw [lookup?_insert, if_pos rfl]

theorem lookup?_insert_of_ne {map : OrderedMap Value} {key other : String} {value : Value}
    (different : other ≠ key) : (map.insert key value).lookup? other = map.lookup? other := by
  rw [lookup?_insert, if_neg different]

@[simp]
theorem lookup?_empty (key : String) : (∅ : OrderedMap Value).lookup? key = none := rfl

/-- Where keys are distinct, a value is found exactly if it is an entry. -/
private theorem lookup_eq_some_iff {entries : List (String × Value)}
    (distinct : (entries.map Prod.fst).Nodup) {key : String} {value : Value} :
    entries.lookup key = some value ↔ (key, value) ∈ entries := by
  induction entries with
  | nil => simp
  | cons entry later ih =>
      obtain ⟨found, held⟩ := entry
      rw [List.map_cons, List.nodup_cons] at distinct
      rw [List.mem_cons, Prod.mk.injEq]
      by_cases same : key = found
      · subst same
        have absent : (key, value) ∉ later := fun member =>
          distinct.1 (List.mem_map.mpr ⟨_, member, rfl⟩)
        simp only [List.lookup_cons_self, Option.some.injEq, true_and, absent, or_false]
        exact eq_comm
      · rw [lookup_cons_of_ne same, ih distinct.2]
        simp only [same, false_and, false_or]

/-- A key has a value exactly if the map has that entry. -/
theorem lookup?_eq_some_iff {map : OrderedMap Value} {key : String} {value : Value} :
    map.lookup? key = some value ↔ (key, value) ∈ map.entries :=
  lookup_eq_some_iff map.keys_nodup

/-- A key has no value exactly if it is not listed. -/
theorem lookup?_eq_none_iff {map : OrderedMap Value} {key : String} :
    map.lookup? key = none ↔ key ∉ map.keys := by
  simp only [lookup?, keys, List.lookup_eq_none_iff, bne_iff_ne, List.mem_map, not_exists,
    not_and]
  exact forall₂_congr fun _ _ => ne_comm

/-- A new key comes last, and one that is there keeps its place. -/
theorem keys_insertEntry (key : String) (value : Value) (entries : List (String × Value)) :
    (insertEntry key value entries).map Prod.fst =
      if key ∈ entries.map Prod.fst then entries.map Prod.fst
      else entries.map Prod.fst ++ [key] := by
  induction entries with
  | nil => rfl
  | cons entry later ih =>
      obtain ⟨found, old⟩ := entry
      by_cases same : found = key
      · simp [insertEntry, same]
      · rw [insertEntry, if_neg same, List.map_cons, List.map_cons, ih]
        simp only [List.mem_cons, Ne.symm same, false_or]
        split
        · rfl
        · rfl

/-- A new key comes last, and a key that is there keeps its place. -/
theorem keys_insert (map : OrderedMap Value) (key : String) (value : Value) :
    (map.insert key value).keys = if key ∈ map.keys then map.keys else map.keys ++ [key] :=
  keys_insertEntry key value map.entries

/-- An entry with a new key comes last. -/
theorem insertEntry_of_not_mem {key : String} {entries : List (String × Value)}
    (fresh : key ∉ entries.map Prod.fst) (value : Value) :
    insertEntry key value entries = entries ++ [(key, value)] := by
  induction entries with
  | nil => rfl
  | cons entry later ih =>
      obtain ⟨found, held⟩ := entry
      rw [List.map_cons, List.mem_cons, not_or] at fresh
      rw [insertEntry, if_neg (Ne.symm fresh.1), ih fresh.2]
      rfl

theorem eq_of_entries {first second : OrderedMap Value} (same : first.entries = second.entries) :
    first = second := by
  cases first
  cases second
  cases same
  rfl

/-- Inserting the entries of a map one after another gives the map. -/
theorem ofList_entries (map : OrderedMap Value) : ofList map.entries = map := by
  have inserted (entries : List (String × Value)) (start : OrderedMap Value)
      (distinct : ((start.entries ++ entries).map Prod.fst).Nodup) :
      (entries.foldl (fun map entry => map.insert entry.1 entry.2) start).entries =
        start.entries ++ entries := by
    induction entries generalizing start with
    | nil => exact (List.append_nil _).symm
    | cons entry later ih =>
        have split : start.entries ++ entry :: later = (start.entries ++ [entry]) ++ later := by
          simp
        have fresh : entry.1 ∉ start.entries.map Prod.fst := by
          rw [List.map_append, List.nodup_append] at distinct
          exact fun listed => distinct.2.2 _ listed _ List.mem_cons_self rfl
        have next : (start.insert entry.1 entry.2).entries = start.entries ++ [entry] :=
          insertEntry_of_not_mem fresh entry.2
        rw [List.foldl_cons, ih, next, split]
        rw [next, ← split]
        exact distinct
  exact eq_of_entries (inserted map.entries empty map.keys_nodup)

/-- Keys that are inserted one after another are listed once each, in the order in which they came
first. -/
theorem keys_ofList (entries : List (String × Value)) :
    (ofList entries).keys = (entries.map Prod.fst).eraseDups := by
  induction entries using List.reverseRecOn with
  | nil => rfl
  | append_singleton earlier entry ih =>
      have inserted : ofList (earlier ++ [entry]) = (ofList earlier).insert entry.1 entry.2 :=
        List.foldl_append
      rw [inserted, keys_insert, ih, List.map_append, List.eraseDups_append, List.map_singleton]
      split
      · next seen => simp [List.removeAll, List.mem_eraseDups.mp seen]
      · next fresh => simp [List.removeAll, List.eraseDups_cons, List.mem_eraseDups.not.mp fresh]

/-- Appending to the list under a key adds one element to all the lists together. -/
private theorem flatten_insertEntry_perm {Element : Type} (key : String) (element : Element)
    (entries : List (String × List Element)) :
    ((insertEntry key ((entries.lookup key).getD [] ++ [element]) entries).map Prod.snd).flatten
      |>.Perm (element :: (entries.map Prod.snd).flatten) := by
  induction entries with
  | nil => simp [insertEntry]
  | cons entry later ih =>
      obtain ⟨found, held⟩ := entry
      by_cases same : found = key
      · subst same
        simp only [insertEntry, ↓reduceIte, List.lookup_cons_self, Option.getD_some, List.map_cons,
          List.flatten_cons, List.append_assoc, List.singleton_append]
        exact List.perm_middle
      · simp only [insertEntry, same, ↓reduceIte, lookup_cons_of_ne (Ne.symm same), List.map_cons,
          List.flatten_cons]
        exact (ih.append_left held).trans List.perm_middle

/-- Adding an element to the list of a key adds it to the list of all values. -/
theorem flatten_values_insert_perm {Element : Type} (map : OrderedMap (List Element))
    (key : String) (element : Element) :
    (map.insert key ((map.lookup? key).getD [] ++ [element])).values.flatten
      |>.Perm (element :: map.values.flatten) :=
  flatten_insertEntry_perm key element map.entries

end ElementTypings.OrderedMap
