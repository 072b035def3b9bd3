import ElementTypings.Proofs.Generation.ImportOrder

/-!
# What a failed resolution leaves

The resolution of a component that fails has imported something already. What it leaves in the
shared scope are the imports of the mentions before the one whose source cannot be told, and nothing
else (`Resolution.component_error`); a run over more components goes on from there as if these
imports had been asked for by themselves.

A resolution that succeeds answers, for every typed member, a name for each symbol that the member
refers to and that is not ambient (`Resolution.mem_keys_iff`).
-/

namespace ElementTypings.Resolution

/-- The imports that mentions ask for, in order: each mention that is not ambient has its symbol
imported from its source. -/
inductive Asks (component : Component) : List (String × TypeReference) → List ScopeRequest → Prop
  | nothing : Asks component [] []
  | ambient {mention : String × TypeReference} {mentions : List (String × TypeReference)}
      {requests : List ScopeRequest} (global : mention.2.location = .global)
      (others : Asks component mentions requests) : Asks component (mention :: mentions) requests
  | imported {mention : String × TypeReference} {mentions : List (String × TypeReference)}
      {requests : List ScopeRequest} {source : String}
      (found : source? component mention.1 mention.2 = .ok (some source))
      (others : Asks component mentions requests) :
      Asks component (mention :: mentions) (.bind source mention.2.name :: requests)

/-- Mentions ask for their imports one after another. -/
theorem Asks.append {component : Component} {first second : List (String × TypeReference)}
    {requests requests' : List ScopeRequest} (asks : Asks component first requests)
    (later : Asks component second requests') :
    Asks component (first ++ second) (requests ++ requests') := by
  induction asks with
  | nothing => exact later
  | ambient global _ ih => exact .ambient global ih
  | imported found _ ih => exact .imported found ih

/-- Mentions whose sources can be told ask for the imports that serve them. -/
theorem asks_requestsOf {component : Component} {mentions : List (String × TypeReference)}
    (known : ∀ mention ∈ mentions, ∃ origin, source? component mention.1 mention.2 = .ok origin) :
    Asks component mentions (requestsOf component mentions) := by
  induction mentions with
  | nil => exact .nothing
  | cons mention later ih =>
      obtain ⟨⟨origin, found⟩, known⟩ := List.forall_mem_cons.mp known
      rw [requestsOf, List.filterMap_cons, importSource?_eq found]
      cases origin with
      | none => exact .ambient (location_of_source?_eq_none found) (ih known)
      | some source => exact .imported found (ih known)

/-! ### Failures -/

section Failures

variable {component : Component} {scope later : ImportScope} {failure : GenerationFailure}

/-- Some mentions were served up to one whose source cannot be told. -/
def StopsAt (component : Component) (scope : ImportScope) (mentions : List (String × TypeReference))
    (failure : GenerationFailure) (later : ImportScope) : Prop :=
  ∃ before mention after requests, mentions = before ++ mention :: after ∧
    Asks component before requests ∧ source? component mention.1 mention.2 = .error failure ∧
    later = scope.serveAll requests

/-- What comes after mentions that were served stops where it would have stopped by itself. -/
theorem StopsAt.after {middle : ImportScope} {served mentions : List (String × TypeReference)}
    {requests : List ScopeRequest} (asks : Asks component served requests)
    (reached : middle = scope.serveAll requests)
    (stops : StopsAt component middle mentions failure later) :
    StopsAt component scope (served ++ mentions) failure later := by
  obtain ⟨before, mention, after, requests', rfl, asks', faulty, rfl⟩ := stops
  refine ⟨served ++ before, mention, after, requests ++ requests', ?_, asks.append asks', faulty,
    ?_⟩
  · rw [List.append_assoc]
  · rw [reached, ImportScope.serveAll_append]

/-- What stops at a mention does not come to those behind it. -/
theorem StopsAt.before {mentions : List (String × TypeReference)}
    (stops : StopsAt component scope mentions failure later)
    (more : List (String × TypeReference)) :
    StopsAt component scope (mentions ++ more) failure later := by
  obtain ⟨before, mention, after, requests, rfl, asks, faulty, reached⟩ := stops
  refine ⟨before, mention, after ++ more, requests, ?_, asks, faulty, reached⟩
  rw [List.append_assoc, List.cons_append]

/-- The references of a member that cannot be resolved stop at the first that has a fault. -/
theorem references_error {member : String} {bindings : TypeText.Bindings}
    {list : List TypeReference}
    (failed : references component member bindings scope list = (.error failure, later)) :
    StopsAt component scope (list.map fun reference => (member, reference)) failure later := by
  induction list generalizing bindings scope with
  | nil => cases failed
  | cons reference rest ih =>
      rw [references] at failed
      rw [List.map_cons, ← List.singleton_append]
      cases found : source? component member reference with
      | error cause =>
          rw [found] at failed
          cases failed
          exact ⟨[], _, _, [], rfl, .nothing, found, rfl⟩
      | ok origin =>
          rw [found] at failed
          cases origin with
          | none =>
              exact .after (.ambient (location_of_source?_eq_none found) .nothing) rfl (ih failed)
          | some source => exact .after (.imported found .nothing) rfl (ih failed)

/-- So do the members of a component. -/
theorem members_error {resolved : MemberBindings} {entries : List (String × Member)}
    (failed : members component resolved scope entries = (.error failure, later)) :
    StopsAt component scope (mentionsOf entries) failure later := by
  induction entries generalizing resolved scope with
  | nil => cases failed
  | cons entry rest ih =>
      obtain ⟨name, member⟩ := entry
      have split : mentionsOf ((name, member) :: rest) =
          (member.references.map fun reference => (name, reference)) ++ mentionsOf rest := rfl
      rw [members] at failed
      rw [split, Member.references]
      cases typed : member.type with
      | none =>
          rw [typed] at failed
          exact ih failed
      | some type =>
          simp only [typed] at failed
          cases first : references component name ∅ scope type.references with
          | mk outcome middle =>
              cases outcome with
              | error cause =>
                  simp only [first] at failed
                  cases failed
                  exact (references_error first).before _
              | ok bindings =>
                  simp only [first] at failed
                  obtain ⟨served, known⟩ := references_ok first
                  refine .after (asks_requestsOf ?_) served (ih failed)
                  exact List.forall_mem_map.mpr known

/-- A resolution that fails has served the mentions before the one at fault. -/
theorem component_error
    (failed : Resolution.component scope component = (.error failure, later)) :
    StopsAt component scope component.mentions failure later :=
  members_error failed

end Failures

/-! ### Answers -/

/-- A name has no source exactly if none of its references is imported. -/
theorem lastSource?_eq_none_iff {component : Component} {member name : String}
    {references : List TypeReference} :
    lastSource? component member references name = none ↔
      ∀ reference ∈ references, reference.name = name →
        importSource? component member reference = none := by
  unfold lastSource?
  simp only [List.findSome?_eq_none_iff, List.mem_reverse, ite_eq_right_iff]

/-- A resolution that succeeds answers a name for every symbol that a typed member refers to and
that is not ambient, and for no other. -/
theorem mem_keys_iff {component : Component} {scope later : ImportScope} {resolved : MemberBindings}
    (succeeded : Resolution.component scope component = (.ok resolved, later)) {name : String}
    {member : Member} (observed : (name, member) ∈ component.observableMembers)
    {type : AttributeType} (typed : member.type = some type) :
    ∃ bindings, resolved.lookup? name = some bindings ∧ ∀ symbol, symbol ∈ bindings.keys ↔
      ∃ reference ∈ type.references, reference.location ≠ .global ∧ reference.name = symbol := by
  obtain ⟨bindings, answered, named⟩ :=
    component_lookup? succeeded (ImportScope.Keeps.refl later) observed typed
  refine ⟨bindings, answered, fun symbol => ?_⟩
  have mentioned {reference : TypeReference} (listed : reference ∈ type.references) :
      (name, reference) ∈ component.mentions := by
    refine List.mem_flatMap.mpr ⟨_, observed, ?_⟩
    rw [Member.references, typed]
    exact List.mem_map_of_mem listed
  constructor
  · intro key
    by_contra none
    refine OrderedMap.lookup?_eq_none_iff.mp ?_ key
    have unasked : lastSource? component name type.references symbol = .none := by
      refine lastSource?_eq_none_iff.mpr fun reference listed same => ?_
      have ambient : reference.location = .global := by
        by_contra foreign
        exact none ⟨reference, listed, foreign, same⟩
      exact importSource?_eq (source?_global ambient)
    rw [named, unasked, Option.bind_none]
  · rintro ⟨reference, listed, foreign, rfl⟩
    by_contra absent
    have unbound := OrderedMap.lookup?_eq_none_iff.mpr absent
    rw [named, Option.bind_eq_none_iff] at unbound
    cases last : lastSource? component name type.references reference.name with
    | none =>
        obtain ⟨origin, found⟩ := component_source succeeded (mentioned listed)
        have unasked := lastSource?_eq_none_iff.mp last reference listed rfl
        rw [importSource?_eq found] at unasked
        subst unasked
        exact foreign (location_of_source?_eq_none found)
    | some source =>
        obtain ⟨asking, asked, found⟩ := List.exists_of_findSome?_eq_some last
        rw [Option.ite_none_right_eq_some] at found
        have requested : ScopeRequest.bind source reference.name ∈ requests component := by
          refine List.mem_filterMap.mpr ⟨_, mentioned (List.mem_reverse.mp asked), ?_⟩
          rw [found.2, found.1, Option.map_some]
        have bound := (ImportScope.isSome_boundName?_serveAll scope _ _ _).mpr (.inr requested)
        rw [← component_scope succeeded, unbound source last] at bound
        cases bound

/-! ### Runs -/

/-- The outcomes of resolving components one after another in one scope, and the scope after the
last of them. A component that fails does not end the run. -/
def run (scope : ImportScope) :
    List Component → List (Except GenerationFailure MemberBindings) × ImportScope
  | [] => ([], scope)
  | component :: later =>
    let (outcome, scope) := Resolution.component scope component
    let (outcomes, scope) := run scope later
    (outcome :: outcomes, scope)

/-- Components are resolved one after another, whatever becomes of those before. -/
theorem run_cons {scope later : ImportScope} {component : Component}
    {outcome : Except GenerationFailure MemberBindings}
    (resolution : Resolution.component scope component = (outcome, later))
    (others : List Component) :
    run scope (component :: others) =
      (outcome :: (run later others).1, (run later others).2) := by
  rw [run, resolution]

/-- **A failed resolution leaves a prefix of its work.** A resolution that fails does so for the
first mention whose source cannot be told, and the scope has served the imports of the mentions
before it, in order, and nothing else: names that were bound stay, and a run over more components
goes on as after these imports. A resolution that succeeds answers, for every typed observable
member, the symbols that the member refers to and that are not ambient. -/
theorem failure_leaves_served (scope : ImportScope) (component : Component) :
    (∀ failure later, Resolution.component scope component = (.error failure, later) →
      ∃ before mention after requests,
        component.mentions = before ++ mention :: after ∧
        source? component mention.1 mention.2 = .error failure ∧
        Asks component before requests ∧
        later = scope.serveAll requests ∧ scope.Keeps later ∧
        ∀ others, run scope (component :: others) =
          (.error failure :: (run (scope.serveAll requests) others).1,
            (run (scope.serveAll requests) others).2)) ∧
      ∀ resolved later, Resolution.component scope component = (.ok resolved, later) →
        ∀ name member type, (name, member) ∈ component.observableMembers →
          member.type = some type →
          ∃ bindings, resolved.lookup? name = some bindings ∧ ∀ symbol, symbol ∈ bindings.keys ↔
            ∃ reference ∈ type.references,
              reference.location ≠ .global ∧ reference.name = symbol := by
  constructor
  · intro failure later failed
    obtain ⟨before, mention, after, requests, split, asks, faulty, reached⟩ :=
      component_error failed
    refine ⟨before, mention, after, requests, split, faulty, asks, reached, ?_, fun others => ?_⟩
    · rw [reached]
      exact ImportScope.keeps_serveAll scope requests
    · rw [run_cons failed, reached]
  · exact fun resolved later succeeded name member type observed typed =>
      mem_keys_iff succeeded observed typed

/-- A scope in which a symbol of the same name is imported already. -/
def usedScope : ImportScope :=
  (ImportScope.empty.bind "/app/lib/foo" "Foo").2

/-- A component whose second typed member refers to a type at a place that is not known, after
references to a symbol that is new, to one that is ambient and to one that is imported already. -/
def stoppedComponent : Component :=
  { tagName := "x-stopped"
    className := "Stopped"
    members := OrderedMap.ofList
      [("item", ⟨.property, some ⟨"Foo | Date",
          [⟨"Foo", .module, some "./foo"⟩, ⟨"Date", .global, none⟩,
            ⟨"Foo", .module, some "./lib/foo"⟩]⟩⟩),
        ("open", ⟨.property, none⟩),
        ("last", ⟨.property, some ⟨"Bar | Baz | Qux",
          [⟨"Bar", .ownFile, none⟩, ⟨"Baz", .unknown "remote", none⟩,
            ⟨"Qux", .ownFile, none⟩]⟩⟩)]
    sourcePath := "/app/stopped.tsx" }

/-- The same component without the member at fault. -/
def finishedComponent : Component :=
  { stoppedComponent with members := OrderedMap.ofList (stoppedComponent.members.entries.take 2) }

/-- What the failed resolution imported stays, and so does what was there before. -/
theorem failure_leaves_served_of_unknown :
    (∃ later, Resolution.component usedScope stoppedComponent =
        (.error (.unknownLocation "remote" "last" "x-stopped"), later) ∧
      later.bindings = [⟨"Foo", "Foo"⟩, ⟨"Foo", "Foo2"⟩, ⟨"Bar", "Bar"⟩] ∧
      usedScope.Keeps later ∧
      ∃ before mention after requests, Asks stoppedComponent before requests ∧
        stoppedComponent.mentions = before ++ mention :: after ∧
        source? stoppedComponent mention.1 mention.2 =
          .error (.unknownLocation "remote" "last" "x-stopped") ∧
        later = usedScope.serveAll requests) ∧
      ∃ resolved later bindings,
        Resolution.component usedScope finishedComponent = (.ok resolved, later) ∧
        resolved.lookup? "item" = some bindings ∧ "Foo" ∈ bindings.keys ∧
        "Date" ∉ bindings.keys := by
  constructor
  · have failed : Resolution.component usedScope stoppedComponent =
        (.error (.unknownLocation "remote" "last" "x-stopped"),
          (Resolution.component usedScope stoppedComponent).2) :=
      Prod.ext (failure?_eq_some_iff.mp (by decide +kernel)) rfl
    obtain ⟨before, mention, after, requests, split, faulty, asks, reached, keeps, -⟩ :=
      (failure_leaves_served usedScope stoppedComponent).1 _ _ failed
    exact ⟨_, failed, by decide +kernel, keeps, before, mention, after, requests, asks, split,
      faulty, reached⟩
  · obtain ⟨resolved, answered⟩ : ∃ resolved,
        (Resolution.component usedScope finishedComponent).1 = .ok resolved :=
      failure?_eq_none_iff.mp (by decide +kernel)
    have succeeded : Resolution.component usedScope finishedComponent =
        (.ok resolved, (Resolution.component usedScope finishedComponent).2) :=
      Prod.ext answered rfl
    obtain ⟨bindings, found, keys⟩ :=
      (failure_leaves_served usedScope finishedComponent).2 _ _ succeeded "item"
        ⟨.property, some ⟨"Foo | Date",
          [⟨"Foo", .module, some "./foo"⟩, ⟨"Date", .global, none⟩,
            ⟨"Foo", .module, some "./lib/foo"⟩]⟩⟩ _ (by decide +kernel) rfl
    exact ⟨resolved, _, bindings, succeeded, found, (keys "Foo").mpr (by decide),
      fun listed => absurd ((keys "Date").mp listed) (by decide)⟩

end ElementTypings.Resolution
