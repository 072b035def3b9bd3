import ElementTypings.Json.Typed

/-!
# What a reader can give

A reader gives values with a property if every value that it reads has the property, from whatever
document (`Json.Reader.Gives`). A value of a wrong type is refused, so it is never given
(`Json.Reader.refuseType_ne_ok`).
-/

namespace ElementTypings.Json

namespace Reader

variable {First Second : Type} {property : First → Prop} {wanted : Second → Prop}

/-- Every value that is read has the property. -/
def Gives (property : First → Prop) (reader : Reader First) : Prop :=
  ∀ cursor value next, reader cursor = .ok (value, next) → property value

/-- A reader that takes nothing gives the value that it was made with. -/
theorem Gives.pure {value : First} (holds : property value) : Gives property (Pure.pure value) := by
  intro cursor _ _ read
  cases read
  exact holds

/-- What the second of two readers gives may rely on what the first one gave. -/
theorem Gives.bind {first : Reader First} {next : First → Reader Second}
    (gives : Gives property first) (later : ∀ value, property value → Gives wanted (next value)) :
    Gives wanted (first >>= next) := by
  intro cursor result behind read
  change (first cursor >>= fun read => next read.1 read.2) = _ at read
  cases taken : first cursor with
  | error problem =>
      rw [taken] at read
      cases read
  | ok found =>
      rw [taken] at read
      exact later found.1 (gives cursor found.1 found.2 taken) found.2 result behind read

/-- Whatever the first step reads. -/
theorem Gives.after {first : Reader First} {next : First → Reader Second}
    (later : ∀ value, Gives wanted (next value)) : Gives wanted (first >>= next) :=
  Gives.bind (fun _ _ _ _ => trivial) fun value (_ : True) => later value

theorem gives_fail (fault : Fault) : Gives property (fail fault) :=
  nofun

theorem gives_blame (fault : Fault) : Gives property (blame fault) :=
  nofun

/-- Refusing a value of a wrong type gives nothing, whatever the value is. -/
theorem gives_refuseType (expected : String) : Gives property (refuseType expected) := by
  unfold refuseType
  refine .after fun char => ?_
  split
  · exact .after fun _ => .after fun _ => gives_fail _
  · exact .after fun _ => .after fun _ => gives_fail _
  · exact .after fun _ => .after fun _ => gives_fail _
  · exact .after fun _ => .after fun _ => gives_fail _
  · exact .after fun _ => .after fun _ => gives_fail _
  · exact gives_fail _
  · exact gives_fail _
  · split
    · exact .after fun _ => gives_fail _
    · exact gives_blame _
  · exact gives_blame _

/-- A value of a wrong type is never given. -/
theorem refuseType_ne_ok (expected : String) (cursor : Text.Cursor) (value : First)
    (next : Text.Cursor) : refuseType expected cursor ≠ .ok (value, next) := by
  have refuses : Gives (fun _ : First => False) (refuseType expected) := gives_refuseType expected
  exact refuses cursor value next

/-! ### Values of a map -/

/-- Every value of the map has the property. -/
def EachValue (property : First → Prop) (map : OrderedMap First) : Prop :=
  ∀ entry ∈ map.entries, property entry.2

/-- An entry that is added to a map has a value with the property, if its value has it. -/
theorem eachValue_insert {map : OrderedMap First} (each : EachValue property map) {value : First}
    (holds : property value) (key : String) : EachValue property (map.insert key value) := by
  have inserted (entries : List (String × First)) (each : ∀ entry ∈ entries, property entry.2) :
      ∀ entry ∈ OrderedMap.insertEntry key value entries, property entry.2 := by
    induction entries with
    | nil => exact List.forall_mem_singleton.mpr holds
    | cons entry later ih =>
        obtain ⟨here, others⟩ := List.forall_mem_cons.mp each
        unfold OrderedMap.insertEntry
        split
        · exact List.forall_mem_cons.mpr ⟨holds, others⟩
        · exact List.forall_mem_cons.mpr ⟨here, ih others⟩
  exact inserted map.entries each

/-- So a map that is made of entries with the property has it throughout. -/
theorem eachValue_ofList {entries : List (String × First)}
    (each : ∀ entry ∈ entries, property entry.2) :
    EachValue property (OrderedMap.ofList entries) := by
  have general (map : OrderedMap First) (held : EachValue property map) :
      EachValue property (entries.foldl (fun map entry => map.insert entry.1 entry.2) map) := by
    induction entries generalizing map with
    | nil => exact held
    | cons entry later ih =>
        obtain ⟨here, others⟩ := List.forall_mem_cons.mp each
        exact ih others _ (eachValue_insert held here entry.1)
  exact general ∅ nofun

end Reader

end ElementTypings.Json
