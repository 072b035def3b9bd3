import ElementTypings.Proofs.ModuleSpecifier.Extension

/-!
# Files that share a route

The route from a directory to a file, written without the extension of the file, tells the file from
most others. It does so exactly up to `ModuleSpecifier.Alike`
(`ModuleSpecifier.intercalate_stemLast_route_eq_iff`): a file may be mistaken for one whose path
differs in the extension only, and a file whose name is nothing but dots before the extension for
the directory that these dots would lead to.

A route that climbs only leads to a directory around the reader, the directory that the route starts
at. Every other route leads down in the end, so the steps up that it begins with can be counted.
-/

namespace ElementTypings.ModuleSpecifier

open LexicalPath

section Agreement

variable {base first second target : List Segment}

/-- What is said of a step up and of the steps to a file is said of the route to the file. -/
theorem forall_mem_stemLast_route {holds : Segment → Prop} (climbs : holds up)
    (down : ∀ segment ∈ stemLast target, holds segment) :
    ∀ segment ∈ stemLast (route base target), holds segment := by
  rw [stemLast_route]
  intro segment listed
  rcases List.mem_append.mp listed with climbed | listed
  · rw [List.eq_of_mem_replicate climbed]
    exact climbs
  · exact down segment (List.mem_of_mem_drop listed)

/-- A route is cut at the slashes of its text. -/
theorem slash_not_mem_stemLast_route (clean : ∀ segment ∈ target, '/' ∉ segment) :
    ∀ segment ∈ stemLast (route base target), '/' ∉ segment := by
  refine forall_mem_stemLast_route (by decide) fun segment listed => ?_
  rcases mem_stemLast listed with old | ⟨last, ends, rfl⟩
  · exact clean segment old
  · exact fun member => clean last (List.mem_of_getLast? ends) ((stem_isPrefix last).subset member)

/-- The route to a directory around the reader climbs and does nothing else. -/
theorem stemLast_route_of_above (above : target <+: base) :
    stemLast (route base target) = List.replicate (base.length - target.length) up := by
  rw [stemLast_route, commonLength_of_above above, ← length_stemLast target, List.drop_length,
    List.append_nil]

/-- Any other route leads down in the end, to the last name without its extension. -/
theorem stemLast_route_of_outside (outside : ¬ target <+: base) :
    ∃ down name, target = base.take (commonLength base target) ++ (down ++ [name]) ∧
      stemLast (route base target) =
        List.replicate (base.length - commonLength base target) up ++ (down ++ [stem name]) := by
  have below : target.drop (commonLength base target) ≠ [] := by
    rw [Ne, List.drop_eq_nil_iff]
    exact Nat.not_le_of_lt (commonLength_lt outside)
  rcases List.eq_nil_or_concat (target.drop (commonLength base target)) with
    none | ⟨down, name, some⟩
  · exact (below none).elim
  · rw [List.concat_eq_append] at some
    refine ⟨down, name, ?_, ?_⟩
    · rw [← some, ← take_commonLength, List.take_append_drop]
    · rw [stemLast_route, drop_stemLast, some, stemLast_concat]

/-- Without its extension, the name of the target is empty or two dots, so that the route to the
target reads as one to a directory around the reader, or to the reader itself. -/
inductive Nameless (base directory target : List Segment) : Prop
  /-- Nothing remains of a name beside the reader. -/
  | blank (there : directory = base) (left : stemLast target = directory ++ [[]])
  /-- What remains of a name around the reader is a step up. -/
  | up {name : Segment} (around : directory ++ [name] <+: base) (outside : ¬ target <+: base)
      (left : stemLast target = directory ++ [name, LexicalPath.up])

/-- Targets that the text of the route to them does not tell apart: they are the same, they are the
same but for the extension and neither is a directory around the reader, or one is such a directory
and nothing that can be told from a step is left of the other one's name. -/
inductive Alike (base first second : List Segment) : Prop
  | same (equal : first = second)
  | extension (outside : ¬ first <+: base) (outside' : ¬ second <+: base)
      (equal : stemLast first = stemLast second)
  | nameless (reads : Nameless base first second)
  | nameless' (reads : Nameless base second first)

/-- A file without a name has the route of the directory that it reads as. -/
theorem Nameless.intercalate_eq (reads : Nameless base first second) :
    List.intercalate ['/'] (stemLast (route base first)) =
      List.intercalate ['/'] (stemLast (route base second)) := by
  cases reads with
  | blank there left =>
      subst there
      obtain ⟨name, rfl, nothing⟩ := exists_of_stemLast_eq_concat left
      have down : stemLast (route first (first ++ [name])) = [[]] := by
        have way := route_append_left first [] [name]
        rw [List.append_nil] at way
        rw [way, ← nothing]
        rfl
      rw [down, stemLast_route_of_above List.prefix_rfl, Nat.sub_self]
      rfl
  | @up name around outside left =>
      rw [List.append_cons] at left
      obtain ⟨last, rfl, climbs⟩ := exists_of_stemLast_eq_concat left
      obtain ⟨below, rfl⟩ := around
      -- The route to the target goes up to the directory that it shares with the reader.
      have way : route (first ++ [name] ++ below) (first ++ [name] ++ [last]) =
          List.replicate below.length LexicalPath.up ++ [last] := by
        have apart : commonLength below [last] = 0 := by
          cases below with
          | nil => rfl
          | cons next later =>
              rw [commonLength, if_neg]
              rintro rfl
              apply outside
              exact (List.prefix_append_right_inj _).mpr (by simp)
        rw [route_append_left, route, apart]
        rfl
      rw [way, stemLast_concat, climbs, stemLast_route_of_above (by simp)]
      have climbed : (first ++ [name] ++ below).length - first.length = below.length + 1 := by
        simp
      rw [climbed, List.replicate_succ']

/-- Targets that are alike share the text of the route. -/
theorem Alike.intercalate_eq (alike : Alike base first second) :
    List.intercalate ['/'] (stemLast (route base first)) =
      List.intercalate ['/'] (stemLast (route base second)) := by
  cases alike with
  | same equal => rw [equal]
  | extension outside outside' equal =>
      have start := congrArg List.dropLast equal
      rw [dropLast_stemLast, dropLast_stemLast] at start
      rw [stemLast_route, stemLast_route, equal, ← commonLength_dropLast outside, start,
        commonLength_dropLast outside']
  | nameless reads => exact reads.intercalate_eq
  | nameless' reads => exact reads.intercalate_eq.symm

/-- Of the directories around the reader, each is reached by a number of steps up of its own. -/
theorem eq_of_route_eq_of_above (above : first <+: base) (above' : second <+: base)
    (same : stemLast (route base first) = stemLast (route base second)) : first = second := by
  rw [stemLast_route_of_above above, stemLast_route_of_above above'] at same
  have climbed := congrArg List.length same
  rw [List.length_replicate, List.length_replicate] at climbed
  have bound := above.length_le
  have bound' := above'.length_le
  have equal : first.length = second.length := by omega
  exact (List.prefix_of_prefix_length_le above above' equal.le).eq_of_length equal

/-- A target elsewhere that shares the route of a directory around the reader has no name. -/
theorem nameless_of_route_eq (names : LexicalPath.up ∉ second) (above : first <+: base)
    (outside : ¬ second <+: base)
    (same : stemLast (route base first) = stemLast (route base second)) :
    Nameless base first second := by
  obtain ⟨down, name, whole, way⟩ := stemLast_route_of_outside outside
  rw [stemLast_route_of_above above, way] at same
  have climbs : ∀ segment ∈ down ++ [stem name], segment = LexicalPath.up := by
    intro segment listed
    apply List.eq_of_mem_replicate
    rw [same]
    exact List.mem_append_right _ listed
  have none : down = [] := by
    apply List.eq_nil_iff_forall_not_mem.mpr
    intro segment listed
    apply names
    rw [whole, ← climbs segment (List.mem_append_left _ listed)]
    exact List.mem_append_right _ (List.mem_append_left _ listed)
  subst none
  have lengths := congrArg List.length same
  rw [List.length_replicate, List.length_append, List.length_replicate, List.nil_append,
    List.length_singleton] at lengths
  have shared := commonLength_le base second
  obtain ⟨below, rfl⟩ := above
  rw [List.length_append] at lengths shared
  have further : commonLength (first ++ below) second = first.length + 1 := by omega
  cases below with
  | nil => simp at lengths
  | cons step later =>
      have start : (first ++ [step] ++ later).take (first.length + 1) = first ++ [step] :=
        List.take_left' List.length_append
      have around : first ++ [step] <+: first ++ step :: later :=
        ⟨later, (List.append_cons first step later).symm⟩
      rw [further, List.append_cons, start, List.nil_append] at whole
      refine .up around outside ?_
      rw [whole, stemLast_concat, climbs (stem name) (by simp), List.append_assoc]
      rfl

/-- Targets elsewhere that share a route are the same but for the extension. -/
theorem stemLast_eq_of_route_eq (names : LexicalPath.up ∉ first) (names' : LexicalPath.up ∉ second)
    (outside : ¬ first <+: base) (outside' : ¬ second <+: base)
    (same : stemLast (route base first) = stemLast (route base second)) :
    stemLast first = stemLast second := by
  obtain ⟨down, name, whole, way⟩ := stemLast_route_of_outside outside
  obtain ⟨down', name', whole', way'⟩ := stemLast_route_of_outside outside'
  rw [way, way', ← List.append_assoc, ← List.append_assoc] at same
  obtain ⟨starts, ends⟩ := List.append_inj' same rfl
  have below : LexicalPath.up ∉ down := by
    rw [whole] at names
    exact fun listed => names (List.mem_append_right _ (List.mem_append_left _ listed))
  have below' : LexicalPath.up ∉ down' := by
    rw [whole'] at names'
    exact fun listed => names' (List.mem_append_right _ (List.mem_append_left _ listed))
  obtain ⟨climbed, rfl⟩ := replicate_up_append_injective below below' starts
  have bound := commonLength_le base first
  have bound' := commonLength_le base second
  have shared : commonLength base first = commonLength base second := by omega
  rw [whole, whole', ← List.append_assoc, ← List.append_assoc, stemLast_concat, stemLast_concat,
    ends, shared]

/-- A target with an empty route is the reader, and one with a blank route stands beside it. -/
theorem nameless_of_route_eq_nil (none : stemLast (route base first) = [])
    (blank : stemLast (route base second) = [[]]) : Nameless base first second := by
  have reader : first = base := by
    by_cases above : first <+: base
    · rw [stemLast_route_of_above above] at none
      have reached := congrArg List.length none
      rw [List.length_replicate, List.length_nil] at reached
      have bound := above.length_le
      exact above.eq_of_length (by omega)
    · obtain ⟨down, name, -, way⟩ := stemLast_route_of_outside above
      rw [way] at none
      simp at none
  by_cases above : second <+: base
  · rw [stemLast_route_of_above above] at blank
    have climbs := List.eq_of_mem_replicate (blank ▸ List.mem_singleton_self [])
    cases climbs
  · obtain ⟨down, name, whole, way⟩ := stemLast_route_of_outside above
    rw [way, ← List.append_assoc] at blank
    obtain ⟨start, ends⟩ := List.append_inj' (blank.trans (List.nil_append _).symm) rfl
    obtain ⟨climbed, rfl⟩ := List.append_eq_nil_iff.mp start
    have bound := commonLength_le base second
    have reached : base.length - commonLength base second = 0 := by
      simpa using climbed
    refine .blank reader ?_
    rw [reader, whole, List.take_of_length_le (by omega), List.nil_append, stemLast_concat, ends]

/-- **Targets that share a route.** The text of the route, without the extension, is the same for
two targets exactly if they are alike. -/
theorem intercalate_stemLast_route_eq_iff
    (clean : ∀ segment ∈ first, '/' ∉ segment ∧ segment ≠ LexicalPath.up)
    (clean' : ∀ segment ∈ second, '/' ∉ segment ∧ segment ≠ LexicalPath.up) :
    List.intercalate ['/'] (stemLast (route base first)) =
      List.intercalate ['/'] (stemLast (route base second)) ↔ Alike base first second := by
  refine ⟨fun same => ?_, Alike.intercalate_eq⟩
  have names : LexicalPath.up ∉ first := fun listed => (clean _ listed).2 rfl
  have names' : LexicalPath.up ∉ second := fun listed => (clean' _ listed).2 rfl
  rcases (Text.intercalate_inj (slash_not_mem_stemLast_route fun segment listed =>
      (clean segment listed).1) (slash_not_mem_stemLast_route fun segment listed =>
      (clean' segment listed).1)).mp same with ways | ⟨none, blank⟩ | ⟨blank, none⟩
  · by_cases above : first <+: base
    · by_cases above' : second <+: base
      · exact .same (eq_of_route_eq_of_above above above' ways)
      · exact .nameless (nameless_of_route_eq names' above above' ways)
    · by_cases above' : second <+: base
      · exact .nameless' (nameless_of_route_eq names above' above ways.symm)
      · exact .extension above above' (stemLast_eq_of_route_eq names names' above above' ways)
  · exact .nameless (nameless_of_route_eq_nil none blank)
  · exact .nameless' (nameless_of_route_eq_nil none blank)

end Agreement

end ElementTypings.ModuleSpecifier
