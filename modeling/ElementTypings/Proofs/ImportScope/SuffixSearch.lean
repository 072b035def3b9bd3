import ElementTypings.Proofs.ImportScope.History

/-!
# How long the search for a suffix takes

The search for a free suffix is a loop without a bound of its own: a turn moves the counter on, and
the search stops when the name with that suffix is free (`ImportScope.Search`). The loop has one
course only (`ImportScope.Search.unique`). Every turn but the last meets a taken name, and these
names are distinct, so there are no more turns than taken names and one
(`ImportScope.Search.length_le`); `ImportScope.freeSuffix`, which counts its candidates down, stops
where the loop does (`ImportScope.exists_search`).

In a scope that has served requests from the empty one on, a counter is at most the number of taken
names, before and after the search that it is used for. So a counter of 32 bits does not overflow
while there are fewer than `UInt32.size - 1` taken names (`ImportScope.suffix_search_ends`).
-/

namespace ElementTypings.ImportScope

/-! ### The loop -/

/-- The suffix to try after the one that the counter stands at; the first one is two. -/
def nextSuffix (counter : Nat) : Nat :=
  max counter 1 + 1

/-- A search for a free suffix from a counter on, with the suffixes that its turns try. -/
inductive Search (taken : List String) (name : String) : (counter : Nat) → (turns : List Nat) → Prop
  | stop {counter : Nat} (free : suffixed name (nextSuffix counter) ∉ taken) :
      Search taken name counter [nextSuffix counter]
  | goOn {counter : Nat} {later : List Nat} (used : suffixed name (nextSuffix counter) ∈ taken)
      (rest : Search taken name (nextSuffix counter) later) :
      Search taken name counter (nextSuffix counter :: later)

section Search

variable {taken : List String} {name : String} {counter : Nat} {turns : List Nat}

/-- A search has one course. -/
theorem Search.unique {others : List Nat} (search : Search taken name counter turns)
    (other : Search taken name counter others) : turns = others := by
  induction search generalizing others with
  | stop free =>
      cases other with
      | stop _ => rfl
      | goOn used _ => exact (free used).elim
  | goOn used _ ih =>
      cases other with
      | stop free => exact (free used).elim
      | goOn _ rest => rw [ih rest]

/-- Every turn moves the counter on by one, from one at least. -/
theorem max_nextSuffix (counter : Nat) : max (nextSuffix counter) 1 = max counter 1 + 1 :=
  Nat.max_eq_left (Nat.le_add_left 1 _)

/-- The turns try one suffix after the other. -/
theorem Search.turns_eq (search : Search taken name counter turns) :
    turns = List.range' (max counter 1 + 1) turns.length := by
  induction search with
  | stop _ => rfl
  | goOn _ _ ih =>
      rw [List.length_cons, List.range'_succ, ← max_nextSuffix, ← ih, max_nextSuffix]
      rfl

/-- No turn tries a larger suffix than the last one. -/
theorem Search.le_last (search : Search taken name counter turns) {turn last : Nat}
    (tried : turn ∈ turns) (ends : turns.getLast? = some last) : turn ≤ last := by
  have whole := search.turns_eq
  generalize turns.length = count at whole
  subst whole
  obtain ⟨above, below⟩ := List.mem_range'_1.mp tried
  rw [List.getLast?_range', if_neg (by omega), Option.some.injEq] at ends
  omega

/-- The turns before the last one meet taken names. -/
theorem Search.suffixed_mem (search : Search taken name counter turns) {suffix : Nat}
    (above : max counter 1 < suffix) (below : suffix < max counter 1 + turns.length) :
    suffixed name suffix ∈ taken := by
  induction search with
  | stop _ =>
      rw [List.length_singleton] at below
      omega
  | @goOn counter later used _ ih =>
      rcases Nat.eq_or_lt_of_le above with first | beyond
      · rwa [← first]
      · rw [max_nextSuffix] at ih
        rw [List.length_cons] at below
        exact ih beyond (by omega)

/-- There are no more turns than taken names and one. -/
theorem Search.length_le (search : Search taken name counter turns) :
    turns.length ≤ taken.length + 1 := by
  have met : turns.length - 1 ≤ taken.length := by
    apply length_of_suffixes_mem (max counter 1)
    intro suffix above below
    exact search.suffixed_mem above (by omega)
  omega

/-- The loop stops where the search among so many candidates does, if that finds a free one. -/
theorem search_of_free (candidates : Nat)
    (free : suffixed name (freeSuffix taken name candidates (max counter 1)) ∉ taken) :
    ∃ turns, Search taken name counter turns ∧
      turns.getLast? = some (freeSuffix taken name candidates (max counter 1)) := by
  induction candidates generalizing counter with
  | zero => exact ⟨_, .stop free, rfl⟩
  | succ candidates ih =>
      rw [freeSuffix] at free ⊢
      split at free
      · next used =>
        rw [if_pos used]
        -- The remaining candidates begin where the counter of the next turn stands.
        rw [← max_nextSuffix] at free ⊢
        obtain ⟨later, rest, last⟩ := ih free
        refine ⟨_, .goOn used rest, ?_⟩
        rw [List.getLast?_cons, last, Option.getD_some]
      · next unused =>
        rw [if_neg unused]
        exact ⟨_, .stop unused, rfl⟩

/-- The loop stops, whatever names are taken, and where `freeSuffix` does. -/
theorem exists_search (taken : List String) (name : String) (counter : Nat) :
    ∃ turns, Search taken name counter turns ∧
      turns.getLast? = some (freeSuffix taken name (taken.length + 1) (max counter 1)) :=
  search_of_free _ (suffixed_freeSuffix_not_mem taken name _)

end Search

/-! ### The search of a scope -/

/-- The suffixes that a scope tries to find a free name: none if the name itself is free and has not
been asked for. -/
def Tries (scope : ImportScope) (name : String) (turns : List Nat) : Prop :=
  let counter := (scope.counters.lookup? name).getD 0
  if counter = 0 ∧ name ∉ scope.taken then turns = []
  else Search scope.taken name counter turns

variable {scope : ImportScope} {source name : String} {turns : List Nat}

/-- The search has a course in every scope, for every name. -/
theorem exists_tries (scope : ImportScope) (name : String) : ∃ turns, scope.Tries name turns := by
  unfold Tries
  dsimp only
  split
  · exact ⟨[], rfl⟩
  · obtain ⟨turns, search, -⟩ := exists_search scope.taken name _
    exact ⟨turns, search⟩

/-- The name that a scope gives carries the suffix of the last turn, which is the count that the
scope keeps. -/
theorem freeName_of_tries (tries : scope.Tries name turns) :
    scope.freeName name =
      ((turns.getLast?.map (suffixed name)).getD name, turns.getLast?.getD 1) := by
  unfold Tries at tries
  unfold freeName
  dsimp only at tries ⊢
  split at tries
  · next unasked =>
    rw [if_pos unasked, tries]
    rfl
  · next asked =>
    obtain ⟨others, search, last⟩ := exists_search scope.taken name _
    rw [if_neg asked, tries.unique search, last]
    rfl

/-- There are no more turns than taken names and one. -/
theorem length_le_of_tries (tries : scope.Tries name turns) :
    turns.length ≤ scope.taken.length + 1 := by
  unfold Tries at tries
  dsimp only at tries
  split at tries
  · rw [tries]
    exact Nat.zero_le _
  · exact tries.length_le

/-- No turn tries a larger suffix than the count that is kept. -/
theorem le_freeName_of_tries (tries : scope.Tries name turns) {turn : Nat} (tried : turn ∈ turns) :
    turn ≤ (scope.freeName name).2 := by
  rw [freeName_of_tries tries]
  unfold Tries at tries
  dsimp only at tries
  split at tries
  · rw [tries] at tried
    cases tried
  · have ends := List.getLast?_eq_some_getLast (List.ne_nil_of_mem tried)
    rw [ends]
    exact tries.le_last tried ends

/-- The bounds that the search for a new symbol's name keeps to. -/
structure SearchBounds (scope : ImportScope) (source name : String) (turns : List Nat) : Prop where
  length_le : turns.length ≤ scope.taken.length + 1
  /-- The symbol gets the suffix of the last turn, or keeps its name if there was none. -/
  bound_eq : (scope.bind source name).1 = (turns.getLast?.map (suffixed name)).getD name
  counter_eq :
    (scope.bind source name).2.counters.lookup? name = some (turns.getLast?.getD 1)
  /-- The counter is at most the number of names that are taken after the search. -/
  counter_le : turns.getLast?.getD 1 ≤ (scope.bind source name).2.taken.length
  /-- What the counter becomes in a turn fits into 32 bits. -/
  lt_size : scope.taken.length < UInt32.size - 1 → ∀ turn ∈ turns, turn < UInt32.size

/-- In a consistent scope a search that a bind makes stays within its bounds. -/
theorem Consistent.searchBounds (consistent : scope.Consistent)
    (absent : scope.binding? source name = none) (tries : scope.Tries name turns) :
    scope.SearchBounds source name turns := by
  have given := freeName_of_tries tries
  have bounded := freeName_snd_le consistent.toCounted name
  refine ⟨length_le_of_tries tries, ?_, ?_, ?_, ?_⟩
  · rw [bind_of_none absent, given]
  · rw [bind_of_none absent, given]
    exact OrderedMap.lookup?_insert_self _ _ _
  · rw [given] at bounded
    rw [bind_of_none absent, List.length_cons]
    exact bounded
  · intro few turn tried
    have := le_freeName_of_tries tries tried
    omega

/-- **The search for a suffix ends, and its counter stays small.** After any requests, the taken
names are listed once each, and no counter exceeds their number. For a symbol that is imported for
the first time the search has a course, and only courses of at most one turn more than there are
taken names; it ends with the counter at most the number of names that are taken then. While fewer
than `UInt32.size - 1` names are taken, the counter fits into 32 bits in every turn. -/
theorem suffix_search_ends (requests : List ScopeRequest) :
    let scope := empty.serveAll requests
    scope.taken.Nodup ∧
      (∀ name counter, scope.counters.lookup? name = some counter →
        counter ≤ scope.taken.length) ∧
      ∀ source name, scope.binding? source name = none →
        (∃ turns, scope.Tries name turns) ∧
          ∀ turns, scope.Tries name turns → scope.SearchBounds source name turns := by
  intro scope
  have consistent : scope.Consistent := consistent_serveAll_empty requests
  refine ⟨consistent.taken_nodup, fun _ _ found => consistent.le_length found, ?_⟩
  intro source name absent
  exact ⟨exists_tries scope name, fun _ tries => consistent.searchBounds absent tries⟩

/-- A search that resumes at a counter and meets a name that was reserved. -/
theorem suffix_search_ends_of_resumed :
    let requests : List ScopeRequest :=
      [.reserve "Foo", .bind "/a" "Foo", .bind "/b" "Foo", .reserve "Foo4", .reserve "Foo"]
    let scope := empty.serveAll requests
    scope.counters.lookup? "Foo" = some 3 ∧ 3 ≤ scope.taken.length ∧ scope.taken.length = 4 ∧
      scope.binding? "/c" "Foo" = none ∧ scope.Tries "Foo" [4, 5] ∧
      (scope.bind "/c" "Foo").1 = "Foo5" ∧
      (scope.bind "/c" "Foo").2.counters.lookup? "Foo" = some 5 ∧
      5 ≤ (scope.bind "/c" "Foo").2.taken.length ∧ ∀ turn ∈ [4, 5], turn < UInt32.size := by
  intro requests scope
  have counted : scope.counters.lookup? "Foo" = some 3 := by decide
  have size : scope.taken.length = 4 := by decide
  have absent : scope.binding? "/c" "Foo" = none := by decide
  have tries : scope.Tries "Foo" [4, 5] := by
    unfold Tries
    dsimp only
    rw [counted, if_neg (by decide)]
    exact .goOn (by decide) (.stop (by decide))
  obtain ⟨-, small, searches⟩ := suffix_search_ends requests
  have bounds := (searches "/c" "Foo" absent).2 _ tries
  exact ⟨counted, small "Foo" 3 counted, size, absent, tries, bounds.bound_eq, bounds.counter_eq,
    bounds.counter_le, bounds.lt_size (by rw [size]; decide)⟩

end ElementTypings.ImportScope
