import ElementTypings.Proofs.OrderedMap.Lookup
import ElementTypings.Registry
import Mathlib.Data.List.Dedup
import Mathlib.Data.List.Perm.Basic

/-!
# Registries and their scans

A registry comes from scanning files one after another. It has the component that the last scan of a
file found (`Registry.component?_ofScans`), and the files that declare a component are listed once
each (`Registry.mem_present_iff`, `Registry.nodup_files_present`).

The components in the order of their files do not depend on the order of the scans. What is seen of
them in that order is what is seen of every file's component (`Registry.map_ordered_eq`).
-/

namespace ElementTypings.Registry

/-- The registry after files were scanned one after another. -/
def ofScans (scans : List (String × Option Component)) : Registry :=
  scans.foldl (fun registry scan => registry.insert scan.1 scan.2) empty

/-- The component that the last scan of a file found. -/
def lastFound? (scans : List (String × Option Component)) (file : String) : Option Component :=
  (scans.reverse.lookup file).join

/-- The component of a file. -/
def component? (registry : Registry) (file : String) : Option Component :=
  (registry.files.lookup? file).join

theorem component?_ofScans (scans : List (String × Option Component)) (file : String) :
    (ofScans scans).component? file = lastFound? scans file := by
  have general : ∀ registry : Registry,
      (scans.foldl (fun registry scan => registry.insert scan.1 scan.2) registry).files.lookup?
        file = (scans.reverse.lookup file).or (registry.files.lookup? file) := by
    induction scans with
    | nil => exact fun registry => rfl
    | cons scan later ih =>
        intro registry
        rw [List.foldl_cons, ih, List.reverse_cons, List.lookup_append, Option.or_assoc]
        congr 1
        obtain ⟨scanned, found⟩ := scan
        rw [insert, OrderedMap.lookup?_insert]
        by_cases same : file = scanned
        · simp [same]
        · rw [List.lookup_cons, beq_eq_false_iff_ne.mpr same, if_neg same]
          rfl
  unfold component? ofScans lastFound?
  rw [general, empty, OrderedMap.lookup?_empty, Option.or_none]

/-- A component is present exactly if its file has it. -/
theorem mem_present_iff {registry : Registry} {file : String} {component : Component} :
    (file, component) ∈ registry.present ↔ registry.component? file = some component := by
  unfold present component?
  rw [Option.join_eq_some_iff, OrderedMap.lookup?_eq_some_iff, List.mem_filterMap]
  constructor
  · rintro ⟨⟨scanned, found⟩, listed, same⟩
    obtain ⟨held, rfl, pair⟩ := Option.map_eq_some_iff.mp same
    cases pair
    exact listed
  · intro listed
    exact ⟨_, listed, rfl⟩

theorem nodup_files_present (registry : Registry) : (registry.present.map Prod.fst).Nodup := by
  have files : registry.present.map Prod.fst =
      (registry.files.entries.filter fun entry => entry.2.isSome).map Prod.fst := by
    unfold present
    induction registry.files.entries with
    | nil => rfl
    | cons entry later ih =>
        obtain ⟨file, found⟩ := entry
        cases found with
        | none => simpa using ih
        | some component => simpa using ih
  rw [files]
  exact registry.files.keys_nodup.sublist (List.filter_sublist.map Prod.fst)

/-- Files that are scanned in order need no sorting. -/
theorem ordered_of_sorted {registry : Registry}
    (sorted : registry.present.Pairwise fun left right => decide (left.1 ≤ right.1)) :
    registry.ordered = registry.present.map Prod.snd := by
  rw [ordered, List.mergeSort_of_pairwise sorted]

/-! ### The order of the files -/

private theorem sorted_mergeSort {View : Type} (files : List (String × View)) :
    (files.mergeSort fun left right => decide (left.1 ≤ right.1)).Pairwise
      fun left right => decide (left.1 ≤ right.1) := by
  apply List.pairwise_mergeSort
  · intro left middle right early late
    rw [decide_eq_true_iff] at early late ⊢
    exact String.le_trans early late
  · intro left right
    rw [Bool.or_eq_true, decide_eq_true_iff, decide_eq_true_iff]
    exact String.le_total left.1 right.1

/-- Files that are listed once each have one order. -/
private theorem eq_of_perm_of_sorted {View : Type} {first second : List (String × View)}
    (distinct : (second.map Prod.fst).Nodup) (shuffled : first.Perm second)
    (sortedFirst : first.Pairwise fun left right => decide (left.1 ≤ right.1))
    (sortedSecond : second.Pairwise fun left right => decide (left.1 ≤ right.1)) :
    first = second := by
  refine List.Perm.eq_of_pairwise ?_ sortedFirst sortedSecond shuffled
  -- A file is listed once, so two entries that stand on both sides of each other are one.
  intro left right listedLeft listedRight before after
  exact List.inj_on_of_nodup_map distinct (shuffled.mem_iff.mp listedLeft) listedRight
    (String.le_antisymm (of_decide_eq_true before) (of_decide_eq_true after))

/-- An insertion changes the component of its own file alone. -/
theorem component?_insert (registry : Registry) (file other : String)
    (found : Option Component) :
    (registry.insert file found).component? other =
      if other = file then found else registry.component? other := by
  unfold component? insert
  rw [OrderedMap.lookup?_insert]
  split
  · rfl
  · rfl

/-- The component of a new file joins those that are present. -/
private theorem present_insert_perm {registry : Registry} {file : String} (component : Component)
    (absent : registry.component? file = none) :
    (registry.insert file (some component)).present.Perm
      (registry.present ++ [(file, component)]) := by
  have fresh : file ∉ registry.present.map Prod.fst := by
    intro listed
    obtain ⟨⟨_, held⟩, present, rfl⟩ := List.mem_map.mp listed
    rw [mem_present_iff.mp present] at absent
    cases absent
  have distinct : (registry.present ++ [(file, component)]).Nodup := by
    apply List.Nodup.of_map Prod.fst
    rw [List.map_append, List.map_singleton, ← List.concat_eq_append]
    exact registry.nodup_files_present.concat fresh
  apply (List.perm_ext_iff_of_nodup (nodup_files_present _).of_map distinct).mpr
  rintro ⟨other, held⟩
  rw [mem_present_iff, component?_insert, List.mem_append, List.mem_singleton, mem_present_iff,
    Prod.mk.injEq]
  by_cases same : other = file
  · subst same
    simp [absent, eq_comm]
  · simp [same]

/-- A component whose file comes after those of all others comes last. -/
theorem ordered_insert_of_last {registry : Registry} {file : String} (component : Component)
    (last : ∀ entry ∈ registry.present, entry.1 < file) :
    (registry.insert file (some component)).ordered = registry.ordered ++ [component] := by
  have absent : registry.component? file = none := by
    cases found : registry.component? file with
    | none => rfl
    | some held => exact (String.lt_irrefl _ (last _ (mem_present_iff.mpr found))).elim
  have shuffled := present_insert_perm component absent
  have listed : (registry.insert file (some component)).present.mergeSort
      (fun left right => decide (left.1 ≤ right.1)) =
        registry.present.mergeSort (fun left right => decide (left.1 ≤ right.1)) ++
          [(file, component)] := by
    have together := shuffled.trans ((List.mergeSort_perm registry.present
      (fun left right => decide (left.1 ≤ right.1))).symm.append_right [(file, component)])
    apply eq_of_perm_of_sorted _ ((List.mergeSort_perm _ _).trans together) (sorted_mergeSort _)
    · rw [List.pairwise_append]
      refine ⟨sorted_mergeSort _, List.pairwise_singleton _ _, ?_⟩
      intro before early after late
      rw [List.mem_singleton.mp late, decide_eq_true_iff]
      exact Std.le_of_lt (last before (List.mem_mergeSort.mp early))
    · exact (together.map Prod.fst).nodup_iff.mp (nodup_files_present _)
  rw [ordered, listed, List.map_append, ordered, List.map_singleton]

section Order

variable {View : Type} (view : Component → View)

/-- The files that declare a component, with what is seen of it. -/
private def seen (registry : Registry) : List (String × View) :=
  registry.present.map fun entry => (entry.1, view entry.2)

private theorem files_seen (registry : Registry) :
    (registry.seen view).map Prod.fst = registry.present.map Prod.fst := by
  unfold seen
  rw [List.map_map]
  rfl

/-- What is seen of a file is the view of its component. -/
private theorem mem_seen_iff {registry : Registry} {file : String} {shown : View} :
    (file, shown) ∈ registry.seen view ↔ (registry.component? file).map view = some shown := by
  unfold seen
  rw [List.mem_map, Option.map_eq_some_iff]
  constructor
  · rintro ⟨⟨_, component⟩, listed, same⟩
    cases same
    exact ⟨component, mem_present_iff.mp listed, rfl⟩
  · rintro ⟨component, found, rfl⟩
    exact ⟨(file, component), mem_present_iff.mpr found, rfl⟩

/-- The components in order are seen as what is seen of them, in order. -/
private theorem map_ordered (registry : Registry) :
    registry.ordered.map view =
      ((registry.seen view).mergeSort fun left right => decide (left.1 ≤ right.1)).map
        Prod.snd := by
  have sorted : (registry.present.mergeSort fun left right => decide (left.1 ≤ right.1)).map
      (fun entry => (entry.1, view entry.2)) =
        (registry.present.map fun entry => (entry.1, view entry.2)).mergeSort
          fun left right => decide (left.1 ≤ right.1) :=
    List.map_mergeSort fun _ _ _ _ => rfl
  unfold ordered seen
  rw [← sorted, List.map_map, List.map_map]
  rfl

/-- Registries that show the same of every file's component show the same in order. -/
theorem map_ordered_eq {first second : Registry}
    (same : ∀ file, (first.component? file).map view = (second.component? file).map view) :
    first.ordered.map view = second.ordered.map view := by
  have distinct : ∀ registry : Registry, ((registry.seen view).map Prod.fst).Nodup := by
    intro registry
    rw [files_seen]
    exact registry.nodup_files_present
  have shuffled : (first.seen view).Perm (second.seen view) := by
    apply (List.perm_ext_iff_of_nodup (distinct first).of_map (distinct second).of_map).mpr
    rintro ⟨file, shown⟩
    rw [mem_seen_iff, mem_seen_iff, same]
  rw [map_ordered, map_ordered]
  congr 1
  refine eq_of_perm_of_sorted ?_ ?_ (sorted_mergeSort _) (sorted_mergeSort _)
  · exact ((List.mergeSort_perm _ _).map Prod.fst).nodup_iff.mpr (distinct second)
  · exact (List.mergeSort_perm _ _).trans (shuffled.trans (List.mergeSort_perm _ _).symm)

end Order

end ElementTypings.Registry
