import ElementTypings.Proofs.OrderedMap.Lookup
import ElementTypings.ImportScope
import Mathlib.Data.List.Nodup
import Mathlib.Data.Nat.Find

/-!
# The search for a free name

A scope resumes its search for a free suffix at a counter. Here the search is compared with the
plain one, which tries the suffixes from `2` on until the suffixed name is not taken
(`ImportScope.leastSuffix`). Distinct suffixes make distinct names, so among one more candidates
than there are taken names one is free, and `ImportScope.freeSuffix` always finds one
(`ImportScope.suffixed_freeSuffix_not_mem`).

Resuming is sound as long as every counter tells the truth: the name itself is taken, and so is the
name with every suffix up to the counter (`ImportScope.Counted`). Under that invariant both searches
give the same name and the same count (`ImportScope.freeName_eq`), and no count exceeds the number
of names that are then taken (`ImportScope.Counted.le_length`).
-/

namespace ElementTypings.ImportScope

/-! ### Suffixed names -/

theorem suffixed_injective (name : String) : Function.Injective (suffixed name) := by
  intro first second same
  have digits : toString first = toString second := (String.append_right_inj name).mp same
  have values := congrArg (fun text : String => Nat.ofDigitChars 10 text.toList 0) digits
  simpa using values

/-- A name with a suffix is another name. -/
theorem suffixed_ne_self (name : String) (suffix : Nat) : suffixed name suffix ≠ name := by
  intro same
  have empty : toString suffix = "" := by
    apply (String.append_right_inj name).mp
    rw [String.append_empty]
    exact same
  exact Nat.repr_ne_empty empty

/-- So many consecutive suffixes that are taken need as many taken names. -/
theorem length_of_suffixes_mem {taken : List String} {name : String} (low : Nat) {count : Nat}
    (used : ∀ suffix, low < suffix → suffix ≤ low + count → suffixed name suffix ∈ taken) :
    count ≤ taken.length := by
  have distinct : ((List.range' (low + 1) count).map (suffixed name)).Nodup :=
    (List.nodup_range').map (suffixed_injective name)
  have within : (List.range' (low + 1) count).map (suffixed name) ⊆ taken := by
    intro candidate member
    obtain ⟨suffix, inRange, rfl⟩ := List.mem_map.mp member
    have bounds := List.mem_range'_1.mp inRange
    exact used suffix (by omega) (by omega)
  simpa using distinct.length_le_of_subset within

/-- The name itself needs one place more. -/
theorem length_of_name_and_suffixes_mem {taken : List String} {name : String} (low : Nat)
    {count : Nat} (itself : name ∈ taken)
    (used : ∀ suffix, low < suffix → suffix ≤ low + count → suffixed name suffix ∈ taken) :
    count + 1 ≤ taken.length := by
  have others : count ≤ (taken.erase name).length := by
    apply length_of_suffixes_mem low
    intro suffix above below
    exact (List.mem_erase_of_ne (suffixed_ne_self name suffix)).mpr (used suffix above below)
  have shorter := List.length_erase_of_mem itself
  have positive := List.length_pos_of_mem itself
  omega

/-! ### The resumed search -/

/-- The search only goes on: the suffix it finds is above its counter. -/
theorem lt_freeSuffix (taken : List String) (name : String) (candidates counter : Nat) :
    counter < freeSuffix taken name candidates counter := by
  induction candidates generalizing counter with
  | zero => exact Nat.lt_succ_self counter
  | succ candidates ih =>
      rw [freeSuffix]
      split
      · exact Nat.lt_trans (Nat.lt_succ_self counter) (ih (counter + 1))
      · exact Nat.lt_succ_self counter

/-- Every suffix that the search passes over is taken. -/
theorem suffixed_mem_of_lt_freeSuffix {taken : List String} {name : String}
    {candidates counter suffix : Nat} (above : counter < suffix)
    (below : suffix < freeSuffix taken name candidates counter) :
    suffixed name suffix ∈ taken := by
  induction candidates generalizing counter with
  | zero =>
      rw [freeSuffix] at below
      omega
  | succ candidates ih =>
      rw [freeSuffix] at below
      split at below
      · next used =>
        by_cases first : suffix = counter + 1
        · rwa [first]
        · exact ih (by omega) below
      · omega

/-- The search stops at a free suffix or after the last candidate. -/
theorem suffixed_freeSuffix_not_mem_or (taken : List String) (name : String)
    (candidates counter : Nat) :
    suffixed name (freeSuffix taken name candidates counter) ∉ taken ∨
      freeSuffix taken name candidates counter = counter + candidates + 1 := by
  induction candidates generalizing counter with
  | zero => exact Or.inr rfl
  | succ candidates ih =>
      rw [freeSuffix]
      split
      · rcases ih (counter + 1) with free | last
        · exact Or.inl free
        · right
          omega
      · next free => exact Or.inl free

/-- One of more candidates than taken names is free. -/
theorem suffixed_freeSuffix_not_mem (taken : List String) (name : String) (counter : Nat) :
    suffixed name (freeSuffix taken name (taken.length + 1) counter) ∉ taken := by
  rcases suffixed_freeSuffix_not_mem_or taken name (taken.length + 1) counter with free | last
  · exact free
  · have crowded : taken.length + 1 ≤ taken.length := by
      apply length_of_suffixes_mem counter
      intro suffix above below
      exact suffixed_mem_of_lt_freeSuffix above (by rw [last]; omega)
    omega

/-! ### The plain search -/

/-- Finitely many taken names leave a suffix of two or more free. -/
theorem exists_free_suffix (taken : List String) (name : String) :
    ∃ suffix, 2 ≤ suffix ∧ suffixed name suffix ∉ taken :=
  ⟨freeSuffix taken name (taken.length + 1) 1, lt_freeSuffix _ _ _ _,
    suffixed_freeSuffix_not_mem taken name 1⟩

/-- The least suffix, from `2` on, with which the name is not taken. -/
def leastSuffix (taken : List String) (name : String) : Nat :=
  Nat.find (exists_free_suffix taken name)

/-- The name itself if it is free, and the name with the least free suffix otherwise. -/
def leastFreeName (taken : List String) (name : String) : String :=
  if name ∈ taken then suffixed name (leastSuffix taken name) else name

theorem two_le_leastSuffix (taken : List String) (name : String) : 2 ≤ leastSuffix taken name :=
  (Nat.find_spec (exists_free_suffix taken name)).1

theorem suffixed_leastSuffix_not_mem (taken : List String) (name : String) :
    suffixed name (leastSuffix taken name) ∉ taken :=
  (Nat.find_spec (exists_free_suffix taken name)).2

/-- Every suffix from two on below the least one is taken. -/
theorem suffixed_mem_of_lt_leastSuffix {taken : List String} {name : String} {suffix : Nat}
    (least : 2 ≤ suffix) (below : suffix < leastSuffix taken name) :
    suffixed name suffix ∈ taken := by
  by_contra free
  exact Nat.find_min (exists_free_suffix taken name) below ⟨least, free⟩

/-- The least free name is not taken. -/
theorem leastFreeName_not_mem (taken : List String) (name : String) :
    leastFreeName taken name ∉ taken := by
  unfold leastFreeName
  split
  · exact suffixed_leastSuffix_not_mem taken name
  · assumption

/-- The least free name depends on which names are taken, and on nothing else. -/
theorem leastFreeName_congr {first second : List String}
    (same : ∀ other, other ∈ first ↔ other ∈ second) (name : String) :
    leastFreeName first name = leastFreeName second name := by
  have suffixes : leastSuffix first name = leastSuffix second name := by
    unfold leastSuffix
    congr 1
    funext suffix
    rw [same]
  unfold leastFreeName
  rw [suffixes]
  simp only [same]

/-- The least free suffix of a taken name exceeds the number of taken names by one at most. -/
theorem leastSuffix_le {taken : List String} {name : String} (itself : name ∈ taken) :
    leastSuffix taken name ≤ taken.length + 1 := by
  have room : leastSuffix taken name - 2 + 1 ≤ taken.length := by
    apply length_of_name_and_suffixes_mem 1 itself
    intro suffix above below
    have least := two_le_leastSuffix taken name
    exact suffixed_mem_of_lt_leastSuffix above (by omega)
  omega

/-! ### Truthful counters -/

/-- The counters of a scope tell the truth: a name that has been asked for is taken, and so is the
name with every suffix up to its counter. -/
structure Counted (scope : ImportScope) : Prop where
  positive : ∀ {name counter}, scope.counters.lookup? name = some counter → 0 < counter
  itself : ∀ {name counter}, scope.counters.lookup? name = some counter → name ∈ scope.taken
  suffixes : ∀ {name counter}, scope.counters.lookup? name = some counter →
    ∀ suffix, 2 ≤ suffix → suffix ≤ counter → suffixed name suffix ∈ scope.taken

namespace Counted

variable {scope : ImportScope}

/-- The counter of a name is at most the number of taken names. -/
theorem le_length (counted : scope.Counted) {name : String} {counter : Nat}
    (found : scope.counters.lookup? name = some counter) : counter ≤ scope.taken.length := by
  have positive := counted.positive found
  have room : counter - 1 + 1 ≤ scope.taken.length := by
    apply length_of_name_and_suffixes_mem 1 (counted.itself found)
    intro suffix above below
    exact counted.suffixes found suffix above (by omega)
  omega

/-- Names that are taken later leave the counters truthful. -/
theorem mono (counted : scope.Counted) {later : List String}
    (grows : ∀ name ∈ scope.taken, name ∈ later) :
    Counted { scope with taken := later } where
  positive := counted.positive
  itself found := grows _ (counted.itself found)
  suffixes found suffix least below := grows _ (counted.suffixes found suffix least below)

end Counted

/-- The resumed search of a scope with truthful counters is the plain search. -/
theorem freeName_eq {scope : ImportScope} (counted : scope.Counted) (name : String) :
    scope.freeName name =
      if name ∈ scope.taken then
        (suffixed name (leastSuffix scope.taken name), leastSuffix scope.taken name)
      else (name, 1) := by
  unfold freeName
  by_cases used : name ∈ scope.taken
  · have resumed : freeSuffix scope.taken name (scope.taken.length + 1)
        (max ((scope.counters.lookup? name).getD 0) 1) = leastSuffix scope.taken name := by
      have above := lt_freeSuffix scope.taken name (scope.taken.length + 1)
        (max ((scope.counters.lookup? name).getD 0) 1)
      have free := suffixed_freeSuffix_not_mem scope.taken name
        (max ((scope.counters.lookup? name).getD 0) 1)
      refine ((Nat.find_eq_iff _).mpr ⟨⟨by omega, free⟩, ?_⟩).symm
      rintro suffix below ⟨least, unused⟩
      apply unused
      by_cases passed : max ((scope.counters.lookup? name).getD 0) 1 < suffix
      · exact suffixed_mem_of_lt_freeSuffix passed below
      · -- The counter vouches for the suffixes at which the search does not look again.
        cases found : scope.counters.lookup? name with
        | none =>
            rw [found, Option.getD_none] at passed
            omega
        | some counter =>
            rw [found, Option.getD_some] at passed
            exact counted.suffixes found suffix least (by omega)
    simp only [used, not_true_eq_false, and_false, ↓reduceIte, resumed]
  · have unasked : scope.counters.lookup? name = none := by
      cases found : scope.counters.lookup? name with
      | none => rfl
      | some counter => exact (used (counted.itself found)).elim
    simp only [unasked, Option.getD_none, used, not_false_eq_true, and_self, ↓reduceIte]

/-- The name that a scope with truthful counters gives is the least free one. -/
theorem freeName_fst {scope : ImportScope} (counted : scope.Counted) (name : String) :
    (scope.freeName name).1 = leastFreeName scope.taken name := by
  rw [freeName_eq counted, leastFreeName]
  split <;> rfl

/-- More taken names make no difference to a search whose result they leave free. -/
theorem freeName_eq_of_grows {scope other : ImportScope} (counted : scope.Counted)
    (otherCounted : other.Counted) (grows : ∀ taken ∈ scope.taken, taken ∈ other.taken)
    {name : String} (free : (scope.freeName name).1 ∉ other.taken) :
    other.freeName name = scope.freeName name := by
  rw [freeName_eq counted] at free ⊢
  rw [freeName_eq otherCounted]
  by_cases used : name ∈ scope.taken
  · rw [if_pos used] at free ⊢
    have least : leastSuffix other.taken name = leastSuffix scope.taken name := by
      refine (Nat.find_eq_iff _).mpr ⟨⟨two_le_leastSuffix _ _, free⟩, ?_⟩
      rintro suffix below ⟨least, unused⟩
      exact unused (grows _ (suffixed_mem_of_lt_leastSuffix least below))
    rw [if_pos (grows _ used), least]
  · rw [if_neg used] at free ⊢
    exact if_neg free

/-- The count that is kept for a name exceeds the number of taken names by one at most. -/
theorem freeName_snd_le {scope : ImportScope} (counted : scope.Counted) (name : String) :
    (scope.freeName name).2 ≤ scope.taken.length + 1 := by
  rw [freeName_eq counted]
  split
  · next used => exact leastSuffix_le used
  · exact Nat.le_add_left 1 _

end ElementTypings.ImportScope
