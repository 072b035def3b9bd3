import ElementTypings.Proofs.ImportScope.FreeName

/-!
# Scopes and their histories

A scope is used by two requests: to import a symbol of a source, and to reserve a name. A scope that
has served requests from the empty one on is consistent (`ImportScope.Consistent`): its bound names
are distinct, a group lists every symbol once and is never empty, and its counters tell the truth
about the names that are taken.

What a scope tells its user is the name that a symbol is bound to. A request changes that for the
symbol that it imports and for no other (`ImportScope.boundName?_bind`), so a name that has been
given out stays (`ImportScope.Keeps`).

The names that are taken are those that the requests so far reserved or were answered with
(`ImportScope.mem_taken_serveAll_empty`). A symbol that is imported for the first time therefore
gets the least free name with respect to the history alone, whatever the counters are
(`ImportScope.bind_eq_leastFreeName`).
-/

namespace ElementTypings

/-- A use of a scope. -/
inductive ScopeRequest where
  /-- A symbol of a source is imported. -/
  | bind (source name : String)
  /-- A name is reserved. -/
  | reserve (name : String)
deriving DecidableEq, Repr

namespace ImportScope

/-- The scope after a request. -/
def serve (scope : ImportScope) : ScopeRequest → ImportScope
  | .bind source name => (scope.bind source name).2
  | .reserve name => scope.reserve name

/-- The scope after requests one after another. -/
def serveAll (scope : ImportScope) (requests : List ScopeRequest) : ImportScope :=
  requests.foldl serve scope

/-- The name that a request reserves or is answered with. -/
def nameUsed (scope : ImportScope) : ScopeRequest → String
  | .bind source name => (scope.bind source name).1
  | .reserve name => name

/-- The names that requests reserve or are answered with, one after another. -/
def namesUsed (scope : ImportScope) : List ScopeRequest → List String
  | [] => []
  | request :: later => scope.nameUsed request :: namesUsed (scope.serve request) later

/-- The name that a symbol of a source is bound to. -/
def boundName? (scope : ImportScope) (source name : String) : Option String :=
  (scope.binding? source name).map ImportBinding.bound

variable {scope : ImportScope} {source name : String}

theorem serveAll_cons (request : ScopeRequest) (later : List ScopeRequest) :
    scope.serveAll (request :: later) = (scope.serve request).serveAll later := rfl

theorem serveAll_append (first second : List ScopeRequest) :
    scope.serveAll (first ++ second) = (scope.serveAll first).serveAll second :=
  List.foldl_append

/-! ### One import -/

/-- A symbol that has been imported keeps its name and leaves the scope as it is. -/
theorem bind_of_some {binding : ImportBinding}
    (found : scope.binding? source name = some binding) :
    scope.bind source name = (binding.bound, scope) := by
  rw [bind, found]

/-- A symbol that is new gets a free name, at the end of the group of its source. -/
theorem bind_of_none (absent : scope.binding? source name = none) :
    scope.bind source name =
      ((scope.freeName name).1,
        { counters := scope.counters.insert name (scope.freeName name).2
          taken := (scope.freeName name).1 :: scope.taken
          groups := scope.groups.insert source
            ((scope.group? source).getD [] ++ [{ name, bound := (scope.freeName name).1 }]) }) := by
  rw [bind, absent]

/-- The binding of a symbol carries the symbol's own name. -/
theorem name_of_binding? {binding : ImportBinding}
    (found : scope.binding? source name = some binding) : binding.name = name := by
  obtain ⟨group, _, member⟩ := Option.bind_eq_some_iff.mp found
  simpa using List.find?_some member

/-- Nothing is bound exactly if no binding of the group has the name. -/
theorem binding?_eq_none_iff : scope.binding? source name = none ↔
    ∀ binding ∈ (scope.group? source).getD [], binding.name ≠ name := by
  unfold binding?
  cases found : scope.group? source with
  | none => simp
  | some group => simp [List.find?_eq_none]

theorem boundName?_eq_some_iff {bound : String} :
    scope.boundName? source name = some bound ↔
      scope.binding? source name = some { name, bound } := by
  unfold boundName?
  rw [Option.map_eq_some_iff]
  constructor
  · rintro ⟨binding, found, rfl⟩
    have named := name_of_binding? found
    subst named
    exact found
  · intro found
    exact ⟨_, found, rfl⟩

/-- The group of a source after a new symbol has been imported from one. -/
theorem group?_bind_of_none (absent : scope.binding? source name = none) (other : String) :
    (scope.bind source name).2.group? other =
      if other = source then
        some ((scope.group? source).getD [] ++ [{ name, bound := (scope.freeName name).1 }])
      else scope.group? other := by
  rw [bind_of_none absent]
  exact OrderedMap.lookup?_insert _ _ _ _

/-- Binding a name that its source had not bound adds this binding and changes no other. -/
private theorem binding?_bind_of_none (absent : scope.binding? source name = none)
    (other symbol : String) :
    (scope.bind source name).2.binding? other symbol =
      if other = source ∧ symbol = name then
        some { name, bound := (scope.freeName name).1 }
      else scope.binding? other symbol := by
  rw [binding?, group?_bind_of_none absent]
  by_cases here : other = source
  · subst here
    simp only [↓reduceIte, Option.bind_some, List.find?_append, true_and]
    by_cases same : symbol = name
    · subst same
      have unseen : ((scope.group? other).getD []).find? (fun binding => binding.name == symbol) =
          none := by
        rw [List.find?_eq_none]
        intro binding member
        simpa using binding?_eq_none_iff.mp absent binding member
      simp [unseen]
    · have others : [({ name, bound := (scope.freeName name).1 } : ImportBinding)].find?
          (fun binding => binding.name == symbol) = none := by
        simpa using Ne.symm same
      rw [others, Option.or_none, if_neg same, binding?]
      cases scope.group? other <;> rfl
  · rw [if_neg here, if_neg (fun both => here both.1), binding?]

/-- After an import the symbol has the name that was answered, and every other symbol has the name
it had. -/
theorem boundName?_bind (scope : ImportScope) (source name other symbol : String) :
    (scope.bind source name).2.boundName? other symbol =
      if other = source ∧ symbol = name then some (scope.bind source name).1
      else scope.boundName? other symbol := by
  cases found : scope.binding? source name with
  | some binding =>
      rw [bind_of_some found]
      split
      · next same =>
        obtain ⟨rfl, rfl⟩ := same
        rw [boundName?, found, Option.map_some]
      · rfl
  | none =>
      rw [boundName?, binding?_bind_of_none found]
      split
      · rw [bind_of_none found, Option.map_some]
      · rfl

/-- What a bind answers is found again under the same source and name. -/
theorem boundName?_bind_self (scope : ImportScope) (source name : String) :
    (scope.bind source name).2.boundName? source name = some (scope.bind source name).1 := by
  rw [boundName?_bind, if_pos ⟨rfl, rfl⟩]

/-- Reserving a name changes no binding. -/
theorem boundName?_reserve (scope : ImportScope) (reserved source name : String) :
    (scope.reserve reserved).boundName? source name = scope.boundName? source name := rfl

theorem mem_taken_reserve {other : String} :
    other ∈ (scope.reserve name).taken ↔ other = name ∨ other ∈ scope.taken := by
  unfold reserve
  split
  · next present =>
    refine ⟨Or.inr, ?_⟩
    rintro (rfl | member)
    · exact present
    · exact member
  · exact List.mem_cons

/-- A new symbol adds one binding. -/
theorem bindings_bind_perm (absent : scope.binding? source name = none) :
    (scope.bind source name).2.bindings.Perm
      ({ name, bound := (scope.freeName name).1 } :: scope.bindings) := by
  rw [bind_of_none absent]
  exact OrderedMap.flatten_values_insert_perm scope.groups source _

theorem mem_bindings_iff {binding : ImportBinding} :
    binding ∈ scope.bindings ↔
      ∃ source group, scope.group? source = some group ∧ binding ∈ group := by
  unfold bindings OrderedMap.values group?
  simp only [List.mem_flatten, List.mem_map, OrderedMap.lookup?_eq_some_iff]
  constructor
  · rintro ⟨_, ⟨⟨origin, group⟩, listed, rfl⟩, member⟩
    exact ⟨origin, group, listed, member⟩
  · rintro ⟨origin, group, listed, member⟩
    exact ⟨group, ⟨⟨origin, group⟩, listed, rfl⟩, member⟩

/-- The symbols in the group of a source are bound. -/
theorem isSome_boundName?_of_mem_group {group : List ImportBinding} {binding : ImportBinding}
    (found : scope.group? source = some group) (member : binding ∈ group) :
    (scope.boundName? source binding.name).isSome := by
  rw [boundName?, binding?, found, Option.bind_some, Option.isSome_map]
  exact List.find?_isSome.mpr ⟨binding, member, beq_self_eq_true _⟩

/-! ### Names that stay -/

/-- Whatever symbol the earlier scope has bound, the later one has bound to the same name. -/
def Keeps (earlier later : ImportScope) : Prop :=
  ∀ ⦃source name bound : String⦄, earlier.boundName? source name = some bound →
    later.boundName? source name = some bound

theorem Keeps.refl (scope : ImportScope) : scope.Keeps scope := fun _ _ _ found => found

theorem Keeps.trans {first second third : ImportScope} (early : first.Keeps second)
    (late : second.Keeps third) : first.Keeps third :=
  fun _ _ _ found => late (early found)

/-- No request changes a name that is bound. -/
theorem keeps_serve (scope : ImportScope) (request : ScopeRequest) :
    scope.Keeps (scope.serve request) := by
  intro other symbol bound found
  cases request with
  | reserve reserved => exact found
  | bind source name =>
      rw [serve, boundName?_bind]
      split
      · next same =>
        obtain ⟨rfl, rfl⟩ := same
        rw [bind_of_some (boundName?_eq_some_iff.mp found)]
      · exact found

/-- No list of requests changes a name that is bound. -/
theorem keeps_serveAll (scope : ImportScope) (requests : List ScopeRequest) :
    scope.Keeps (scope.serveAll requests) := by
  induction requests generalizing scope with
  | nil => exact Keeps.refl scope
  | cons request later ih => exact (keeps_serve scope request).trans (ih (scope.serve request))

/-- The symbols that are bound after requests are those that were bound before and those that the
requests import. -/
theorem isSome_boundName?_serveAll (scope : ImportScope) (requests : List ScopeRequest)
    (source name : String) :
    ((scope.serveAll requests).boundName? source name).isSome ↔
      (scope.boundName? source name).isSome ∨ ScopeRequest.bind source name ∈ requests := by
  induction requests generalizing scope with
  | nil => simp [serveAll]
  | cons request later ih =>
      rw [serveAll_cons, ih, List.mem_cons]
      cases request with
      | reserve reserved => simp [serve, boundName?_reserve]
      | bind origin symbol =>
          rw [serve, boundName?_bind]
          by_cases same : source = origin ∧ name = symbol
          · simp [same]
          · simp [same]

/-- The names that requests use are those that they reserve and those that the symbols they import
are bound to in the end. -/
theorem mem_namesUsed_iff (scope : ImportScope) (requests : List ScopeRequest) (used : String) :
    used ∈ scope.namesUsed requests ↔ ScopeRequest.reserve used ∈ requests ∨
      ∃ source name, ScopeRequest.bind source name ∈ requests ∧
        (scope.serveAll requests).boundName? source name = some used := by
  induction requests generalizing scope with
  | nil => simp [namesUsed]
  | cons request later ih =>
      rw [namesUsed, List.mem_cons, ih, serveAll_cons]
      simp only [List.mem_cons]
      cases request with
      | reserve name => simp [nameUsed, or_assoc]
      | bind source name =>
          have answered :
              ((scope.serve (.bind source name)).serveAll later).boundName? source name =
                some (scope.bind source name).1 :=
            keeps_serveAll _ later (boundName?_bind_self scope source name)
          constructor
          · rintro (rfl | reserved | ⟨origin, symbol, asked, bound⟩)
            · exact Or.inr ⟨source, name, Or.inl rfl, answered⟩
            · exact Or.inl (Or.inr reserved)
            · exact Or.inr ⟨origin, symbol, Or.inr asked, bound⟩
          · rintro ((impossible | reserved) | ⟨origin, symbol, same | asked, bound⟩)
            · cases impossible
            · exact Or.inr (Or.inl reserved)
            · cases same
              exact Or.inl (Option.some.inj (bound.symm.trans answered))
            · exact Or.inr (Or.inr ⟨origin, symbol, asked, bound⟩)

/-! ### Consistency -/

/-- What every scope guarantees that has served requests from the empty one on. -/
structure Consistent (scope : ImportScope) : Prop extends scope.Counted where
  taken_nodup : scope.taken.Nodup
  bound_nodup : (scope.bindings.map ImportBinding.bound).Nodup
  bound_taken : ∀ binding ∈ scope.bindings, binding.bound ∈ scope.taken
  name_taken : ∀ binding ∈ scope.bindings, binding.name ∈ scope.taken
  names_nodup : ∀ {source group}, scope.group? source = some group →
    (group.map ImportBinding.name).Nodup
  group_ne_nil : ∀ {source group}, scope.group? source = some group → group ≠ []

theorem consistent_empty : empty.Consistent where
  positive found := by simp [empty] at found
  itself found := by simp [empty] at found
  suffixes found := by simp [empty] at found
  taken_nodup := List.nodup_nil
  bound_nodup := List.nodup_nil
  bound_taken := fun _ member => (List.not_mem_nil member).elim
  name_taken := fun _ member => (List.not_mem_nil member).elim
  names_nodup found := by simp [empty, group?] at found
  group_ne_nil found := by simp [empty, group?] at found

namespace Consistent

/-- In a consistent scope the name that the search finds is free. -/
theorem freeName_not_mem (consistent : scope.Consistent) (name : String) :
    (scope.freeName name).1 ∉ scope.taken := by
  rw [freeName_fst consistent.toCounted]
  exact leastFreeName_not_mem scope.taken name

/-- A name that has been given a free name is taken from then on. -/
private theorem mem_freeName_cons (consistent : scope.Consistent) (name : String) :
    name ∈ (scope.freeName name).1 :: scope.taken := by
  rw [freeName_eq consistent.toCounted]
  split
  · next used => exact List.mem_cons_of_mem _ used
  · exact List.mem_cons_self

/-- A bind counts the suffix it used, so that the counters still tell what is taken. -/
private theorem counted_bind (consistent : scope.Consistent) (name : String) :
    Counted
      { counters := scope.counters.insert name (scope.freeName name).2
        taken := (scope.freeName name).1 :: scope.taken
        groups := scope.groups } := by
  have chosen := freeName_eq consistent.toCounted name
  refine ⟨?_, ?_, ?_⟩
  · intro other counter found
    rw [OrderedMap.lookup?_insert] at found
    split at found
    · obtain rfl := Option.some.inj found
      rw [chosen]
      split
      · exact Nat.lt_of_lt_of_le Nat.two_pos (two_le_leastSuffix _ _)
      · exact Nat.one_pos
    · exact consistent.positive found
  · intro other counter found
    rw [OrderedMap.lookup?_insert] at found
    split at found
    · next same =>
      subst same
      exact consistent.mem_freeName_cons other
    · exact List.mem_cons_of_mem _ (consistent.itself found)
  · intro other counter found suffix least below
    rw [OrderedMap.lookup?_insert] at found
    split at found
    · next same =>
      subst same
      obtain rfl := Option.some.inj found
      rw [chosen] at below ⊢
      split at below
      · next used =>
        rw [if_pos used]
        -- The counter stands at the new suffix: that one is bound now, the smaller ones were taken.
        rcases Nat.lt_or_eq_of_le below with smaller | last
        · exact List.mem_cons_of_mem _ (suffixed_mem_of_lt_leastSuffix least smaller)
        · rw [last]
          exact List.mem_cons_self
      · change suffix ≤ 1 at below
        omega
    · exact List.mem_cons_of_mem _ (consistent.suffixes found suffix least below)

/-- The bindings of a scope are the names that it tells its user. -/
theorem mem_bindings_iff_boundName? (consistent : scope.Consistent) {binding : ImportBinding} :
    binding ∈ scope.bindings ↔
      ∃ source, scope.boundName? source binding.name = some binding.bound := by
  rw [mem_bindings_iff]
  constructor
  · rintro ⟨source, group, found, member⟩
    refine ⟨source, boundName?_eq_some_iff.mpr ?_⟩
    have seen : (group.find? fun other => other.name == binding.name).isSome :=
      List.find?_isSome.mpr ⟨binding, member, beq_self_eq_true _⟩
    obtain ⟨first, chosen⟩ := Option.isSome_iff_exists.mp seen
    have named : first.name = binding.name := by simpa using List.find?_some chosen
    have same : first = binding :=
      List.inj_on_of_nodup_map (consistent.names_nodup found) (List.mem_of_find?_eq_some chosen)
        member named
    rw [binding?, found, Option.bind_some, chosen, same]
  · rintro ⟨source, known⟩
    obtain ⟨group, found, held⟩ := Option.bind_eq_some_iff.mp (boundName?_eq_some_iff.mp known)
    exact ⟨source, group, found, List.mem_of_find?_eq_some held⟩

/-- The name of a new binding differs from every bound name. -/
private theorem bound_nodup_cons (consistent : scope.Consistent) (name : String) :
    (({ name, bound := (scope.freeName name).1 } :: scope.bindings).map
      ImportBinding.bound).Nodup := by
  rw [List.map_cons, List.nodup_cons]
  refine ⟨?_, consistent.bound_nodup⟩
  intro repeated
  obtain ⟨binding, member, same⟩ := List.mem_map.mp repeated
  apply consistent.freeName_not_mem name
  rw [← show binding.bound = (scope.freeName name).1 from same]
  exact consistent.bound_taken binding member

/-- A group that had no binding of a name binds it once afterwards. -/
private theorem names_nodup_append (consistent : scope.Consistent)
    {binding : ImportBinding} (absent : scope.binding? source binding.name = none) :
    (((scope.group? source).getD [] ++ [binding]).map ImportBinding.name).Nodup := by
  rw [List.map_append, List.nodup_append]
  refine ⟨?_, List.nodup_singleton _, ?_⟩
  · cases old : scope.group? source with
    | none => exact List.nodup_nil
    | some group => exact consistent.names_nodup old
  · intro symbol member fresh last
    obtain ⟨other, held, rfl⟩ := List.mem_map.mp member
    rw [List.mem_singleton.mp last]
    exact binding?_eq_none_iff.mp absent other held

/-- Importing a symbol keeps a scope consistent. -/
theorem bind (consistent : scope.Consistent) (source name : String) :
    (scope.bind source name).2.Consistent := by
  cases absent : scope.binding? source name with
  | some binding =>
      rw [bind_of_some absent]
      exact consistent
  | none =>
      have added := bindings_bind_perm absent
      have counted := consistent.counted_bind name
      have groups := group?_bind_of_none absent
      have taken : (scope.bind source name).2.taken = (scope.freeName name).1 :: scope.taken := by
        rw [bind_of_none absent]
      have counters : (scope.bind source name).2.counters =
          scope.counters.insert name (scope.freeName name).2 := by
        rw [bind_of_none absent]
      refine
        { positive := fun found => counted.positive (counters ▸ found)
          itself := fun found => taken ▸ counted.itself (counters ▸ found)
          suffixes := fun found => taken ▸ counted.suffixes (counters ▸ found)
          taken_nodup := ?_
          bound_nodup := ?_
          bound_taken := ?_
          name_taken := ?_
          names_nodup := ?_
          group_ne_nil := ?_ }
      · rw [taken]
        exact List.nodup_cons.mpr ⟨consistent.freeName_not_mem name, consistent.taken_nodup⟩
      · rw [(added.map ImportBinding.bound).nodup_iff]
        exact consistent.bound_nodup_cons name
      · intro binding member
        rw [taken]
        rcases List.mem_cons.mp (added.mem_iff.mp member) with rfl | old
        · exact List.mem_cons_self
        · exact List.mem_cons_of_mem _ (consistent.bound_taken binding old)
      · intro binding member
        rw [taken]
        rcases List.mem_cons.mp (added.mem_iff.mp member) with rfl | old
        · exact consistent.mem_freeName_cons name
        · exact List.mem_cons_of_mem _ (consistent.name_taken binding old)
      · intro other group found
        rw [groups] at found
        split at found
        · obtain rfl := Option.some.inj found
          exact consistent.names_nodup_append absent
        · exact consistent.names_nodup found
      · intro other group found
        rw [groups] at found
        split at found
        · obtain rfl := Option.some.inj found
          simp
        · exact consistent.group_ne_nil found

/-- Reserving a name keeps a scope consistent. -/
theorem reserve (consistent : scope.Consistent) (name : String) :
    (scope.reserve name).Consistent := by
  have grows : ∀ other ∈ scope.taken, other ∈ (scope.reserve name).taken :=
    fun other member => mem_taken_reserve.mpr (Or.inr member)
  have counted := consistent.toCounted.mono grows
  refine
    { positive := counted.positive
      itself := counted.itself
      suffixes := counted.suffixes
      taken_nodup := ?_
      bound_nodup := consistent.bound_nodup
      bound_taken := fun binding member => grows _ (consistent.bound_taken binding member)
      name_taken := fun binding member => grows _ (consistent.name_taken binding member)
      names_nodup := consistent.names_nodup
      group_ne_nil := consistent.group_ne_nil }
  unfold ImportScope.reserve
  split
  · exact consistent.taken_nodup
  · next free => exact List.nodup_cons.mpr ⟨free, consistent.taken_nodup⟩

/-- A request keeps a scope consistent. -/
theorem serve (consistent : scope.Consistent) (request : ScopeRequest) :
    (scope.serve request).Consistent := by
  cases request with
  | bind source name => exact consistent.bind source name
  | reserve name => exact consistent.reserve name

/-- Requests one after another keep a scope consistent. -/
theorem serveAll (consistent : scope.Consistent) (requests : List ScopeRequest) :
    (scope.serveAll requests).Consistent := by
  induction requests generalizing scope with
  | nil => exact consistent
  | cons request later ih => exact ih (consistent.serve request)

/-- The names that are taken after a request are the name that it used and those that were taken
before. -/
theorem mem_taken_serve (consistent : scope.Consistent) (request : ScopeRequest)
    {other : String} :
    other ∈ (scope.serve request).taken ↔ other = scope.nameUsed request ∨ other ∈ scope.taken := by
  cases request with
  | reserve name => exact mem_taken_reserve
  | bind source name =>
      change other ∈ (scope.bind source name).2.taken ↔
        other = (scope.bind source name).1 ∨ other ∈ scope.taken
      cases found : scope.binding? source name with
      | none =>
          rw [bind_of_none found]
          exact List.mem_cons
      | some binding =>
          rw [bind_of_some found]
          refine ⟨Or.inr, ?_⟩
          rintro (rfl | member)
          · obtain ⟨group, present, held⟩ := Option.bind_eq_some_iff.mp found
            exact consistent.bound_taken binding
              (mem_bindings_iff.mpr ⟨source, group, present, List.mem_of_find?_eq_some held⟩)
          · exact member

/-- The names that are taken after requests are those that were taken before and those that the
requests used. -/
theorem mem_taken_serveAll (consistent : scope.Consistent) (requests : List ScopeRequest)
    {other : String} :
    other ∈ (scope.serveAll requests).taken ↔
      other ∈ scope.taken ∨ other ∈ scope.namesUsed requests := by
  induction requests generalizing scope with
  | nil => simp [ImportScope.serveAll, namesUsed]
  | cons request later ih =>
      rw [serveAll_cons, ih (consistent.serve request), consistent.mem_taken_serve, namesUsed,
        List.mem_cons, or_assoc]
      exact or_left_comm

/-- A binding that requests add has a name that was not taken before them. -/
theorem bound_not_mem_taken (consistent : scope.Consistent) (requests : List ScopeRequest)
    {binding : ImportBinding} (member : binding ∈ (scope.serveAll requests).bindings)
    (added : binding ∉ scope.bindings) : binding.bound ∉ scope.taken := by
  induction requests generalizing scope with
  | nil => exact (added member).elim
  | cons request later ih =>
      have grows : ∀ other ∈ scope.taken, other ∈ (scope.serve request).taken :=
        fun other taken => (consistent.mem_taken_serve request).mpr (Or.inr taken)
      by_cases first : binding ∈ (scope.serve request).bindings
      · cases request with
        | reserve name => exact (added first).elim
        | bind source name =>
            change binding ∈ (scope.bind source name).2.bindings at first
            cases found : scope.binding? source name with
            | some _ =>
                rw [bind_of_some found] at first
                exact (added first).elim
            | none =>
                rcases List.mem_cons.mp ((bindings_bind_perm found).mem_iff.mp first) with rfl | old
                · exact consistent.freeName_not_mem name
                · exact (added old).elim
      · exact fun taken => ih (consistent.serve request) member first (grows _ taken)

end Consistent

/-- The requests that a scope has served since the empty one leave it consistent. -/
theorem consistent_serveAll_empty (requests : List ScopeRequest) :
    (empty.serveAll requests).Consistent :=
  consistent_empty.serveAll requests

/-- The names that are taken after requests to the empty scope are the names that they used. -/
theorem mem_taken_serveAll_empty (requests : List ScopeRequest) {other : String} :
    other ∈ (empty.serveAll requests).taken ↔ other ∈ empty.namesUsed requests := by
  rw [consistent_empty.mem_taken_serveAll]
  simp [empty]

/-- **The resumed search is the plain one.** After any requests, a symbol that is imported for the
first time keeps its name if no request used that name, and otherwise gets the least suffix from `2`
on that makes a name which no request used. So the answer depends only on the set of names used,
and equal sets give equal answers. While fewer than `UInt32.size - 1` names are taken, the count
that the search ends at, which is the largest it looks at, fits into 32 bits. -/
theorem bind_eq_leastFreeName (requests : List ScopeRequest) (source name : String)
    (absent : (empty.serveAll requests).binding? source name = none) :
    ((empty.serveAll requests).bind source name).1 =
        leastFreeName (empty.namesUsed requests) name ∧
      (∀ (others : List ScopeRequest) (origin : String),
        (∀ used, used ∈ empty.namesUsed others ↔ used ∈ empty.namesUsed requests) →
        (empty.serveAll others).binding? origin name = none →
          ((empty.serveAll others).bind origin name).1 =
            ((empty.serveAll requests).bind source name).1) ∧
      ((empty.serveAll requests).taken.length < UInt32.size - 1 →
        ((empty.serveAll requests).freeName name).2 < UInt32.size) := by
  have plain : ∀ (history : List ScopeRequest) (origin : String),
      (empty.serveAll history).binding? origin name = none →
        ((empty.serveAll history).bind origin name).1 =
          leastFreeName (empty.namesUsed history) name := by
    intro history origin unbound
    rw [bind_of_none unbound, freeName_fst (consistent_serveAll_empty history).toCounted]
    exact leastFreeName_congr (fun _ => mem_taken_serveAll_empty history) name
  refine ⟨plain requests source absent, ?_, ?_⟩
  · intro others origin same unbound
    rw [plain others origin unbound, plain requests source absent]
    exact leastFreeName_congr same name
  · intro few
    have bounded := freeName_snd_le (consistent_serveAll_empty requests).toCounted name
    omega

/-- A suffix that another symbol took by its own name is passed over, before and after the first
search. -/
theorem bind_eq_leastFreeName_passes_suffixes :
    let requests : List ScopeRequest :=
      [.bind "/a" "Foo2", .reserve "Foo", .bind "/a" "Foo", .reserve "Foo4"]
    (empty.serveAll requests).binding? "/b" "Foo" = none ∧
      ((empty.serveAll requests).bind "/b" "Foo").1 = "Foo5" ∧
      leastFreeName (empty.namesUsed requests) "Foo" = "Foo5" := by
  intro requests
  have absent : (empty.serveAll requests).binding? "/b" "Foo" = none := by decide
  have answer : ((empty.serveAll requests).bind "/b" "Foo").1 = "Foo5" := by decide
  exact ⟨absent, answer, (bind_eq_leastFreeName requests "/b" "Foo" absent).1.symm.trans answer⟩

end ImportScope

end ElementTypings
