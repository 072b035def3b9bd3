import ElementTypings.Proofs.ImportScope.History

/-!
# Imports in the order of first use

A scope lists the sources that it imports from and, for each, the names of the imported symbols.
After any requests to the empty scope these lists are those of the imports that were asked for, in
the order in which each was asked for first (`ImportScope.listing_serveAll`). Nothing is listed that
was not asked for and nothing twice, so there are as many bindings as distinct imports
(`ImportScope.length_bindings_serveAll`). Names that are reserved in between leave no trace.
-/

namespace ElementTypings

/-- A last value is kept exactly if it did not occur before. -/
private theorem eraseDups_concat {Value : Type} [BEq Value] [LawfulBEq Value]
    (values : List Value) (last : Value) [Decidable (last ∈ values)] :
    (values ++ [last]).eraseDups =
      if last ∈ values then values.eraseDups else values.eraseDups ++ [last] := by
  rw [List.eraseDups_append]
  split
  · next seen => simp [List.removeAll, seen]
  · next fresh => simp [List.removeAll, List.eraseDups_cons, fresh]

/-- The import that a request asks for, as a source and a name. -/
def ScopeRequest.import? : ScopeRequest → Option (String × String)
  | .bind source name => some (source, name)
  | .reserve _ => none

/-- The names that are imported from a source, in the order of first use. -/
def namesOfSource (uses : List (String × String)) (source : String) : List String :=
  ((uses.filter fun use => use.1 = source).map Prod.snd).eraseDups

/-- The sources of imports in the order of first use, each with the names that are imported from
it. -/
def firstUses (uses : List (String × String)) : List (String × List String) :=
  (uses.map Prod.fst).eraseDups.map fun source => (source, namesOfSource uses source)

theorem mem_namesOfSource {uses : List (String × String)} {source name : String} :
    name ∈ namesOfSource uses source ↔ (source, name) ∈ uses := by
  simp [namesOfSource]

/-- A use adds its name to its own source alone, and only the first time. -/
theorem namesOfSource_concat (uses : List (String × String)) (source name other : String) :
    namesOfSource (uses ++ [(source, name)]) other =
      if other = source ∧ (source, name) ∉ uses then namesOfSource uses other ++ [name]
      else namesOfSource uses other := by
  unfold namesOfSource
  rw [List.filter_append, List.map_append]
  by_cases here : other = source
  · subst here
    simp [eraseDups_concat]
  · simp [here, Ne.symm here]

namespace ImportScope

/-- The sources that the scope imports from, each with the names of the symbols. -/
def listing (scope : ImportScope) : List (String × List String) :=
  scope.groups.entries.map fun group => (group.1, group.2.map ImportBinding.name)

variable {scope : ImportScope} {source name : String} {uses : List (String × String)}

/-- The scope lists the uses: their sources and, for every source, its names, as they came first. -/
structure Records (scope : ImportScope) (uses : List (String × String)) : Prop where
  keys : scope.groups.keys = (uses.map Prod.fst).eraseDups
  names : ∀ source, ((scope.group? source).getD []).map ImportBinding.name =
    namesOfSource uses source
  count : scope.bindings.length = uses.eraseDups.length

theorem records_empty : empty.Records [] where
  keys := rfl
  names _ := rfl
  count := rfl

namespace Records

/-- A scope has no binding exactly for what was not used. -/
theorem binding?_eq_none_iff (recorded : scope.Records uses) :
    scope.binding? source name = none ↔ (source, name) ∉ uses := by
  rw [ImportScope.binding?_eq_none_iff, ← mem_namesOfSource, ← recorded.names, List.mem_map]
  constructor
  · rintro absent ⟨binding, held, named⟩
    exact absent binding held named
  · intro absent binding held named
    exact absent ⟨binding, held, named⟩

theorem bind (recorded : scope.Records uses) (source name : String) :
    (scope.bind source name).2.Records (uses ++ [(source, name)]) := by
  cases absent : scope.binding? source name with
  | some binding =>
      have seen : (source, name) ∈ uses := by
        by_contra fresh
        rw [recorded.binding?_eq_none_iff.mpr fresh] at absent
        cases absent
      have sourceSeen : source ∈ uses.map Prod.fst := List.mem_map.mpr ⟨_, seen, rfl⟩
      rw [bind_of_some absent]
      refine ⟨?_, fun other => ?_, ?_⟩
      · rw [List.map_append, List.map_singleton, eraseDups_concat, if_pos sourceSeen, recorded.keys]
      · rw [namesOfSource_concat, if_neg (fun both => both.2 seen), recorded.names]
      · rw [eraseDups_concat, if_pos seen, recorded.count]
  | none =>
      have fresh := recorded.binding?_eq_none_iff.mp absent
      refine ⟨?_, fun other => ?_, ?_⟩
      · rw [bind_of_none absent]
        change (scope.groups.insert source _).keys = _
        rw [OrderedMap.keys_insert, recorded.keys, List.map_append, List.map_singleton,
          eraseDups_concat]
        simp only [List.mem_eraseDups]
      · rw [group?_bind_of_none absent, namesOfSource_concat]
        by_cases here : other = source
        · subst here
          rw [if_pos rfl, if_pos ⟨rfl, fresh⟩, Option.getD_some, List.map_append, recorded.names]
          rfl
        · rw [if_neg here, if_neg (fun both => here both.1), recorded.names]
      · rw [(bindings_bind_perm absent).length_eq, eraseDups_concat, if_neg fresh,
          List.length_cons, List.length_append, recorded.count, List.length_singleton]

theorem reserve (recorded : scope.Records uses) (name : String) :
    (scope.reserve name).Records uses :=
  ⟨recorded.keys, recorded.names, recorded.count⟩

/-- Serving a request keeps the record, with the use of the request as its last. -/
theorem serve (recorded : scope.Records uses) (request : ScopeRequest) :
    (scope.serve request).Records (uses ++ request.import?.toList) := by
  cases request with
  | bind source name => exact recorded.bind source name
  | reserve name =>
      rw [ScopeRequest.import?, Option.toList_none, List.append_nil]
      exact recorded.reserve name

/-- Requests one after another add the imports that they ask for. -/
theorem serveAll (recorded : scope.Records uses) (requests : List ScopeRequest) :
    (scope.serveAll requests).Records (uses ++ requests.filterMap ScopeRequest.import?) := by
  induction requests generalizing scope uses with
  | nil =>
      rw [List.filterMap_nil, List.append_nil]
      exact recorded
  | cons request later ih =>
      have step := ih (recorded.serve request)
      rw [List.append_assoc] at step
      rw [serveAll_cons, List.filterMap_cons]
      cases asked : request.import? with
      | none => simpa [asked] using step
      | some use => simpa [asked] using step

/-- A scope that records uses lists them as they came first. -/
theorem listing_eq (recorded : scope.Records uses) : scope.listing = firstUses uses := by
  unfold listing firstUses
  rw [← recorded.keys, OrderedMap.keys, List.map_map]
  apply List.map_congr_left
  rintro ⟨source, group⟩ listed
  have found : scope.group? source = some group := OrderedMap.lookup?_eq_some_iff.mpr listed
  rw [Function.comp_apply, ← recorded.names, found, Option.getD_some]

end Records

/-- After any requests the scope lists the imports that were asked for, as they came first. -/
theorem listing_serveAll (requests : List ScopeRequest) :
    (empty.serveAll requests).listing = firstUses (requests.filterMap ScopeRequest.import?) :=
  (records_empty.serveAll requests).listing_eq

/-- There are as many bindings as distinct imports. -/
theorem length_bindings_serveAll (requests : List ScopeRequest) :
    (empty.serveAll requests).bindings.length =
      (requests.filterMap ScopeRequest.import?).eraseDups.length :=
  (records_empty.serveAll requests).count

end ImportScope

end ElementTypings
