import ElementTypings.Proofs.ImportScope.History

/-!
# Reserving one name more

Two scopes serve the same requests, but in one of them a name is taken that is free in the other
(`ImportScope.AgreesBut`). As long as nothing is bound to that name where it is free, the two answer
every request alike, for a search that passes over the name has chosen another one in both
(`ImportScope.AgreesBut.serveAll`).

Requests never move a group or a binding: the groups of a scope come first among its later ones, in
order, and each goes on with its bindings (`ImportScope.continues_serveAll`).
-/

namespace ElementTypings

/-- The groups come first among the later ones, in order, and the bindings of each come first among
its later ones. -/
inductive GroupsContinue :
    List (String × List ImportBinding) → List (String × List ImportBinding) → Prop
  | nil (added : List (String × List ImportBinding)) : GroupsContinue [] added
  | cons (source : String) {group later : List ImportBinding}
      {groups others : List (String × List ImportBinding)} (first : group <+: later)
      (rest : GroupsContinue groups others) :
      GroupsContinue ((source, group) :: groups) ((source, later) :: others)

namespace GroupsContinue

theorem refl (groups : List (String × List ImportBinding)) : GroupsContinue groups groups := by
  induction groups with
  | nil => exact .nil []
  | cons entry rest ih => exact .cons entry.1 (List.prefix_refl entry.2) ih

theorem trans {groups later final : List (String × List ImportBinding)}
    (early : GroupsContinue groups later) (late : GroupsContinue later final) :
    GroupsContinue groups final := by
  induction early generalizing final with
  | nil added => exact .nil final
  | cons source first rest ih =>
      cases late with
      | cons _ second others => exact .cons source (first.trans second) (ih others)

/-- A binding that is added to the group of a source, which may be new, comes last there. -/
theorem insertEntry (source : String) (binding : ImportBinding)
    (groups : List (String × List ImportBinding)) :
    GroupsContinue groups
      (OrderedMap.insertEntry source ((groups.lookup source).getD [] ++ [binding]) groups) := by
  induction groups with
  | nil => exact .nil _
  | cons entry rest ih =>
      obtain ⟨found, group⟩ := entry
      by_cases same : found = source
      · subst same
        rw [OrderedMap.insertEntry, if_pos rfl, List.lookup_cons_self, Option.getD_some]
        exact .cons found (List.prefix_append group [binding]) (refl rest)
      · rw [OrderedMap.insertEntry, if_neg same, OrderedMap.lookup_cons_of_ne (Ne.symm same)]
        exact .cons found (List.prefix_refl group) ih

end GroupsContinue

namespace ImportScope

variable {scope other : ImportScope} {extra : String}

/-- A request appends to the groups: at the end of one, or as a new last one. -/
theorem continues_serve (scope : ImportScope) (request : ScopeRequest) :
    GroupsContinue scope.groups.entries (scope.serve request).groups.entries := by
  cases request with
  | reserve name => exact .refl _
  | bind source name =>
      rw [serve]
      cases found : scope.binding? source name with
      | some binding =>
          rw [bind_of_some found]
          exact .refl _
      | none =>
          rw [bind_of_none found]
          exact .insertEntry source _ scope.groups.entries

/-- Requests leave the groups and their bindings in their places. -/
theorem continues_serveAll (scope : ImportScope) (requests : List ScopeRequest) :
    GroupsContinue scope.groups.entries (scope.serveAll requests).groups.entries := by
  induction requests generalizing scope with
  | nil => exact .refl _
  | cons request later ih => exact (scope.continues_serve request).trans (ih (scope.serve request))

/-- The scopes differ in one name at most: it is taken in the other scope. -/
structure AgreesBut (extra : String) (scope other : ImportScope) : Prop where
  counters : other.counters = scope.counters
  groups : other.groups = scope.groups
  taken : ∀ name, name ∈ other.taken ↔ name = extra ∨ name ∈ scope.taken

/-- A reserved name is the only one by which the two scopes differ. -/
theorem agreesBut_reserve (scope : ImportScope) (extra : String) :
    scope.AgreesBut extra (scope.reserve extra) :=
  ⟨rfl, rfl, fun _ => mem_taken_reserve⟩

namespace AgreesBut

theorem group?_eq (agrees : AgreesBut extra scope other) (source : String) :
    other.group? source = scope.group? source := by
  unfold group?
  rw [agrees.groups]

theorem binding?_eq (agrees : AgreesBut extra scope other) (source name : String) :
    other.binding? source name = scope.binding? source name := by
  unfold binding?
  rw [agrees.group?_eq]

theorem boundName?_eq (agrees : AgreesBut extra scope other) (source name : String) :
    other.boundName? source name = scope.boundName? source name := by
  unfold boundName?
  rw [agrees.binding?_eq]

/-- A request that is not answered with the name is answered alike. -/
theorem serve (agrees : AgreesBut extra scope other) (consistent : scope.Consistent)
    (otherConsistent : other.Consistent) (request : ScopeRequest)
    (unbound : ∀ source name, (scope.serve request).boundName? source name ≠ some extra) :
    AgreesBut extra (scope.serve request) (other.serve request) := by
  cases request with
  | reserve name =>
      refine ⟨agrees.counters, agrees.groups, fun taken => ?_⟩
      rw [ImportScope.serve, ImportScope.serve, mem_taken_reserve, mem_taken_reserve, agrees.taken]
      exact or_left_comm
  | bind source name =>
      have same := agrees.binding?_eq source name
      simp only [ImportScope.serve] at unbound ⊢
      cases found : scope.binding? source name with
      | some binding =>
          rw [bind_of_some found, bind_of_some (same.trans found)]
          exact agrees
      | none =>
          have different : (scope.freeName name).1 ≠ extra := by
            intro equal
            apply unbound source name
            rw [boundName?_bind_self, bind_of_none found, equal]
          have free : (scope.freeName name).1 ∉ other.taken := by
            rw [agrees.taken]
            exact not_or.mpr ⟨different, consistent.freeName_not_mem name⟩
          have chosen : other.freeName name = scope.freeName name :=
            freeName_eq_of_grows consistent.toCounted otherConsistent.toCounted
              (fun taken member => (agrees.taken taken).mpr (Or.inr member)) free
          rw [bind_of_none found, bind_of_none (same.trans found), chosen, agrees.group?_eq,
            agrees.groups, agrees.counters]
          refine ⟨rfl, rfl, fun taken => ?_⟩
          rw [List.mem_cons, List.mem_cons, agrees.taken]
          exact or_left_comm

/-- Requests that bind nothing to the name are all answered alike. -/
theorem serveAll (agrees : AgreesBut extra scope other) (consistent : scope.Consistent)
    (otherConsistent : other.Consistent) (requests : List ScopeRequest)
    (unbound : ∀ source name, (scope.serveAll requests).boundName? source name ≠ some extra) :
    AgreesBut extra (scope.serveAll requests) (other.serveAll requests) := by
  induction requests generalizing scope other with
  | nil => exact agrees
  | cons request later ih =>
      have first := agrees.serve consistent otherConsistent request fun source name bound =>
        unbound source name (keeps_serveAll (scope.serve request) later bound)
      exact ih first (consistent.serve request) (otherConsistent.serve request) unbound

end AgreesBut

end ImportScope

end ElementTypings
