import ElementTypings.Generation.Resolution
import ElementTypings.Proofs.ImportScope.History

/-!
# What a resolution imports

A component mentions types: the references of its observable members, in order. A resolution that
succeeds asks the shared scope for one import for each mention that is not ambient and does nothing
else to the scope (`Resolution.component_scope`), and it has found the source of every mention
(`Resolution.component_source`).

The new names that it answers are those that the scope holds, then and ever after: a name in the
type of a member is bound as the symbol of that name is that the last reference to the name imports
(`Resolution.component_lookup?`). Where a member refers to one name more than once, the last
reference counts.
-/

namespace ElementTypings

/-- The references of a member's type. -/
def Member.references (member : Member) : List TypeReference :=
  match member.type with
  | none => []
  | some type => type.references

/-- The references of members, each with the name of its member. -/
def mentionsOf (entries : List (String × Member)) : List (String × TypeReference) :=
  entries.flatMap fun entry => entry.2.references.map fun reference => (entry.1, reference)

/-- The references that the observable members of a component make, each with the name of its
member. -/
def Component.mentions (component : Component) : List (String × TypeReference) :=
  mentionsOf component.observableMembers

namespace Resolution

/-- The source that a reference imports its type from, if it imports the type and its source can be
told. -/
def importSource? (component : Component) (member : String) (reference : TypeReference) :
    Option String :=
  match source? component member reference with
  | .ok source => source
  | .error _ => none

/-- The source that the last of some references to a name imports it from. -/
def lastSource? (component : Component) (member : String) (references : List TypeReference)
    (name : String) : Option String :=
  references.reverse.findSome? fun reference =>
    if reference.name = name then importSource? component member reference else none

/-- The imports that mentions ask for. -/
def requestsOf (component : Component) (mentions : List (String × TypeReference)) :
    List ScopeRequest :=
  mentions.filterMap fun mention =>
    (importSource? component mention.1 mention.2).map fun source =>
      .bind source mention.2.name

/-- The imports that a component asks for. -/
def requests (component : Component) : List ScopeRequest :=
  requestsOf component component.mentions

/-- A reference whose source can be told is ambient or has a source. -/
theorem location_of_source?_eq_none {component : Component} {member : String}
    {reference : TypeReference} (ambient : source? component member reference = .ok none) :
    reference.location = .global := by
  unfold source? at ambient
  split at ambient
  · assumption
  · simp at ambient
  · split at ambient
    · simp at ambient
    · split at ambient
      · split at ambient <;> simp at ambient
      · simp at ambient
  · simp at ambient

/-- Where a source is found without a failure, it is the one that is imported from. -/
theorem importSource?_eq {component : Component} {member : String} {reference : TypeReference}
    {origin : Option String} (found : source? component member reference = .ok origin) :
    importSource? component member reference = origin := by
  rw [importSource?, found]

/-- A later reference to a name comes before an earlier one. -/
theorem lastSource?_cons (component : Component) (member : String) (reference : TypeReference)
    (later : List TypeReference) (name : String) :
    lastSource? component member (reference :: later) name =
      (lastSource? component member later name).or
        (if reference.name = name then importSource? component member reference else none) := by
  unfold lastSource?
  rw [List.reverse_cons, List.findSome?_append, List.findSome?_singleton]

section References

variable {component : Component} {member : String} {bindings result : TypeText.Bindings}
  {scope later : ImportScope} {list : List TypeReference}

/-- The first of several references that are resolved is ambient, or it is imported before the
others are resolved. -/
theorem references_cons_ok {reference : TypeReference}
    (resolved : references component member bindings scope (reference :: list) =
      (.ok result, later)) :
    (source? component member reference = .ok none ∧
      references component member bindings scope list = (.ok result, later)) ∨
    ∃ source, source? component member reference = .ok (some source) ∧
      references component member
        (bindings.insert reference.name (scope.bind source reference.name).1)
        (scope.bind source reference.name).2 list = (.ok result, later) := by
  rw [references] at resolved
  cases found : source? component member reference with
  | error failure => simp [found] at resolved
  | ok origin =>
      simp only [found] at resolved
      cases origin with
      | none => exact Or.inl ⟨rfl, resolved⟩
      | some source => exact Or.inr ⟨source, rfl, resolved⟩

/-- Resolving references successfully asks for their imports and finds every source. -/
theorem references_ok (resolved : references component member bindings scope list =
    (.ok result, later)) :
    later = scope.serveAll (requestsOf component (list.map fun reference => (member, reference))) ∧
      ∀ reference ∈ list, ∃ source, source? component member reference = .ok source := by
  induction list generalizing bindings scope with
  | nil =>
      simp only [references, Prod.mk.injEq] at resolved
      obtain ⟨-, rfl⟩ := resolved
      exact ⟨rfl, fun _ listed => (List.not_mem_nil listed).elim⟩
  | cons reference rest ih =>
      rw [List.forall_mem_cons, List.map_cons]
      rcases references_cons_ok resolved with ⟨ambient, resolved⟩ | ⟨source, found, resolved⟩
      · obtain ⟨served, sources⟩ := ih resolved
        refine ⟨?_, ⟨none, ambient⟩, sources⟩
        rw [served, requestsOf, requestsOf, List.filterMap_cons, importSource?_eq ambient,
          Option.map_none]
      · obtain ⟨served, sources⟩ := ih resolved
        refine ⟨?_, ⟨some source, found⟩, sources⟩
        rw [served, requestsOf, requestsOf, List.filterMap_cons, importSource?_eq found,
          Option.map_some]
        rfl

/-- Whatever the scope becomes later, resolved references answer the names that it holds then. -/
theorem references_lookup? (resolved : references component member bindings scope list =
    (.ok result, later)) {final : ImportScope} (kept : later.Keeps final) (name : String) :
    result.lookup? name =
      (lastSource? component member list name).elim (bindings.lookup? name)
        fun source => final.boundName? source name := by
  induction list generalizing bindings scope with
  | nil =>
      simp only [references, Prod.mk.injEq, Except.ok.injEq] at resolved
      obtain ⟨rfl, -⟩ := resolved
      rfl
  | cons reference rest ih =>
      rw [lastSource?_cons]
      rcases references_cons_ok resolved with ⟨ambient, resolved⟩ | ⟨source, found, resolved⟩
      · rw [ih resolved, importSource?_eq ambient, ite_self, Option.or_none]
      · rw [ih resolved, importSource?_eq found]
        cases lastSource? component member rest name with
        | some _ => rfl
        | none =>
            rw [Option.none_or, Option.elim_none, OrderedMap.lookup?_insert]
            by_cases same : name = reference.name
            · subst same
              have early : (scope.bind source reference.name).2.Keeps later := by
                rw [(references_ok resolved).1]
                exact ImportScope.keeps_serveAll _ _
              rw [if_pos rfl, if_pos rfl, Option.elim_some]
              exact (kept (early (ImportScope.boundName?_bind_self _ _ _))).symm
            · rw [if_neg same, if_neg (Ne.symm same), Option.elim_none]

end References

section Members

variable {component : Component} {resolved result : MemberBindings} {scope later : ImportScope}
  {entries : List (String × Member)}

/-- The first of several members that are resolved has no type and is passed over, or the references
of its type are resolved before the other members. -/
theorem members_cons_ok {name : String} {member : Member}
    (succeeded : members component resolved scope ((name, member) :: entries) =
      (.ok result, later)) :
    (member.type = none ∧ members component resolved scope entries = (.ok result, later)) ∨
    ∃ type bindings middle, member.type = some type ∧
      references component name ∅ scope type.references = (.ok bindings, middle) ∧
      members component (resolved.insert name bindings) middle entries = (.ok result, later) := by
  rw [members] at succeeded
  cases typed : member.type with
  | none =>
      simp only [typed] at succeeded
      exact Or.inl ⟨rfl, succeeded⟩
  | some type =>
      simp only [typed] at succeeded
      cases first : references component name ∅ scope type.references with
      | mk answer middle =>
          cases answer with
          | error failure => simp [first] at succeeded
          | ok bindings =>
              simp only [first] at succeeded
              exact Or.inr ⟨type, bindings, middle, rfl, first, succeeded⟩

/-- Resolving members successfully asks for the imports of their mentions and finds every source. -/
theorem members_ok (succeeded : members component resolved scope entries = (.ok result, later)) :
    later = scope.serveAll (requestsOf component (mentionsOf entries)) ∧
      ∀ mention ∈ mentionsOf entries,
        ∃ source, source? component mention.1 mention.2 = .ok source := by
  induction entries generalizing resolved scope with
  | nil =>
      simp only [members, Prod.mk.injEq] at succeeded
      obtain ⟨-, rfl⟩ := succeeded
      exact ⟨rfl, fun _ listed => (List.not_mem_nil listed).elim⟩
  | cons entry rest ih =>
      obtain ⟨name, member⟩ := entry
      rcases members_cons_ok succeeded with
        ⟨typed, others⟩ | ⟨type, bindings, middle, typed, first, others⟩
      · have silent : mentionsOf ((name, member) :: rest) = mentionsOf rest := by
          simp [mentionsOf, Member.references, typed]
        rw [silent]
        exact ih others
      · have split : mentionsOf ((name, member) :: rest) =
            (type.references.map fun reference => (name, reference)) ++ mentionsOf rest := by
          simp [mentionsOf, Member.references, typed]
        obtain ⟨served, sources⟩ := references_ok first
        obtain ⟨servedLater, sourcesLater⟩ := ih others
        rw [split, List.forall_mem_append, List.forall_mem_map]
        refine ⟨?_, sources, sourcesLater⟩
        rw [servedLater, served, requestsOf, requestsOf, requestsOf, List.filterMap_append,
          ImportScope.serveAll_append]

/-- Members that do not have a name leave its bindings as they were. -/
private theorem members_lookup?_of_not_mem
    (succeeded : members component resolved scope entries = (.ok result, later)) {name : String}
    (absent : name ∉ entries.map Prod.fst) : result.lookup? name = resolved.lookup? name := by
  induction entries generalizing resolved scope with
  | nil =>
      simp only [members, Prod.mk.injEq, Except.ok.injEq] at succeeded
      obtain ⟨rfl, -⟩ := succeeded
      rfl
  | cons entry rest ih =>
      rw [List.map_cons, List.mem_cons, not_or] at absent
      rcases members_cons_ok succeeded with ⟨-, others⟩ | ⟨type, bindings, middle, -, -, others⟩
      · exact ih others absent.2
      · rw [ih others absent.2, OrderedMap.lookup?_insert_of_ne absent.1]

/-- Whatever the scope becomes later, every typed member is answered the names that it holds
then. -/
theorem members_lookup? (distinct : (entries.map Prod.fst).Nodup)
    (succeeded : members component resolved scope entries = (.ok result, later))
    {final : ImportScope} (kept : later.Keeps final) {name : String} {member : Member}
    (listed : (name, member) ∈ entries) {type : AttributeType} (typed : member.type = some type) :
    ∃ bindings, result.lookup? name = some bindings ∧
      ∀ symbol, bindings.lookup? symbol =
        (lastSource? component name type.references symbol).bind
          fun source => final.boundName? source symbol := by
  induction entries generalizing resolved scope with
  | nil => exact (List.not_mem_nil listed).elim
  | cons entry rest ih =>
      obtain ⟨other, held⟩ := entry
      rw [List.map_cons, List.nodup_cons] at distinct
      rcases members_cons_ok succeeded with
        ⟨untyped, others⟩ | ⟨otherType, bindings, middle, otherTyped, first, others⟩
      · rcases List.mem_cons.mp listed with same | listed
        · obtain ⟨rfl, rfl⟩ := Prod.mk.inj same
          rw [typed] at untyped
          cases untyped
        · exact ih distinct.2 others listed
      · rcases List.mem_cons.mp listed with same | listed
        · obtain ⟨rfl, rfl⟩ := Prod.mk.inj same
          obtain rfl := Option.some.inj (typed.symm.trans otherTyped)
          have early : middle.Keeps later := by
            rw [(members_ok others).1]
            exact ImportScope.keeps_serveAll _ _
          refine ⟨bindings, ?_, fun symbol => ?_⟩
          · rw [members_lookup?_of_not_mem others distinct.1, OrderedMap.lookup?_insert_self]
          · rw [references_lookup? first (early.trans kept) symbol]
            cases lastSource? component name type.references symbol <;> rfl
        · exact ih distinct.2 others listed

end Members

section Component

variable {scope later : ImportScope} {component : Component} {resolved : MemberBindings}

/-- A resolution that succeeds asks the scope for the component's imports and for nothing else. -/
theorem component_scope (succeeded : Resolution.component scope component = (.ok resolved, later)) :
    later = scope.serveAll (requests component) :=
  (members_ok succeeded).1

/-- A resolution that succeeds has found the source of every mention. -/
theorem component_source (succeeded : Resolution.component scope component = (.ok resolved, later))
    {member : String} {reference : TypeReference}
    (mentioned : (member, reference) ∈ component.mentions) :
    ∃ source, source? component member reference = .ok source :=
  (members_ok succeeded).2 _ mentioned

/-- Whatever the scope becomes later, a resolution that succeeded has answered the names that it
holds then. -/
theorem component_lookup? (succeeded : Resolution.component scope component = (.ok resolved, later))
    {final : ImportScope} (kept : later.Keeps final) {name : String} {member : Member}
    (observed : (name, member) ∈ component.observableMembers) {type : AttributeType}
    (typed : member.type = some type) :
    ∃ bindings, resolved.lookup? name = some bindings ∧
      ∀ symbol, bindings.lookup? symbol =
        (lastSource? component name type.references symbol).bind
          fun source => final.boundName? source symbol := by
  have distinct : (component.observableMembers.map Prod.fst).Nodup :=
    component.members.keys_nodup.sublist (List.filter_sublist.map Prod.fst)
  exact members_lookup? distinct succeeded kept observed typed

end Component

end Resolution

end ElementTypings
