import ElementTypings.Project.InputFailure
import Mathlib.Data.List.Nodup

/-!
# Distinct tags

The components of a registry have distinct tags exactly if no file repeats a tag
(`Registry.duplicateTag?_eq_none_iff`). A file that holds a registry is accepted under the same
condition (`Registry.ofSource_eq_ok_iff`).
-/

namespace ElementTypings.Registry

/-- The tags of the components, in the order of their files. -/
def tags (registry : Registry) : List String :=
  registry.ordered.map Component.tagName

/-- No duplicate is found exactly if tags are distinct and none was seen before. -/
theorem duplicateAmong_eq_none_iff {seen : List (String × String)}
    {entries : List (String × Component)} :
    duplicateAmong seen entries = none ↔
      (entries.map fun entry => entry.2.tagName).Nodup ∧
        ∀ entry ∈ entries, seen.lookup entry.2.tagName = none := by
  induction entries generalizing seen with
  | nil => simp [duplicateAmong]
  | cons entry later ih =>
    obtain ⟨file, component⟩ := entry
    have grown : ∀ tag, ((component.tagName, file) :: seen).lookup tag = none ↔
        tag ≠ component.tagName ∧ seen.lookup tag = none := by
      intro tag
      rw [List.lookup_cons]
      by_cases same : tag = component.tagName
      · simp [same]
      · simp [same, beq_eq_false_iff_ne.mpr same]
    rw [duplicateAmong]
    cases earlier : seen.lookup component.tagName with
    | some first =>
      constructor
      · intro impossible
        cases impossible
      · rintro ⟨-, absent⟩
        have fresh := absent _ List.mem_cons_self
        rw [earlier] at fresh
        cases fresh
    | none =>
      simp only [ih, grown, List.map_cons, List.nodup_cons, List.mem_map, List.forall_mem_cons,
        earlier, true_and]
      constructor
      · rintro ⟨distinct, absent⟩
        refine ⟨⟨?_, distinct⟩, fun other listed => (absent other listed).2⟩
        rintro ⟨other, listed, same⟩
        exact (absent other listed).1 same
      · rintro ⟨⟨fresh, distinct⟩, absent⟩
        exact ⟨distinct, fun other listed => ⟨fun same => fresh ⟨other, listed, same⟩,
          absent other listed⟩⟩

/-- No file repeats a tag exactly if the tags are distinct, in whatever order they are taken. -/
theorem duplicateTag?_eq_none_iff {registry : Registry} :
    registry.duplicateTag? = none ↔ registry.tags.Nodup := by
  have sorted : registry.tags.Perm (registry.present.map fun entry => entry.2.tagName) := by
    unfold tags ordered
    rw [List.map_map]
    exact (List.mergeSort_perm _ _).map _
  unfold duplicateTag?
  rw [duplicateAmong_eq_none_iff, sorted.nodup_iff]
  exact and_iff_left fun entry listed => rfl

/-- A file is accepted exactly if it holds a registry with distinct tags. -/
theorem ofSource_eq_ok_iff {source : SourceText} {registry : Registry} :
    ofSource source = .ok registry ↔
      ofJson source.content = .ok registry ∧ registry.tags.Nodup := by
  unfold ofSource
  cases ofJson source.content with
  | error failure => simp
  | ok found =>
    simp only
    split
    · next duplicate repeated =>
      have shared : ¬ found.tags.Nodup := by
        rw [← duplicateTag?_eq_none_iff, repeated]
        exact Option.some_ne_none duplicate
      constructor
      · intro impossible
        cases impossible
      · rintro ⟨same, distinct⟩
        cases same
        exact absurd distinct shared
    · next absent =>
      have distinct := duplicateTag?_eq_none_iff.mp absent
      constructor
      · intro same
        cases same
        exact ⟨rfl, distinct⟩
      · rintro ⟨same, -⟩
        cases same
        rfl

end ElementTypings.Registry
