import Mathlib.Data.List.Forall2

/-!
# Outcomes of steps that may fail

A chain of steps succeeds exactly if every step does (`bind_eq_ok_iff`), and a step taken for every
element of a list succeeds exactly if it does for each (`mapM_eq_ok_iff`). What fails does so for
the first cause that comes up (`failure?_bind`, `failure?_mapM`).
-/

namespace ElementTypings

variable {Cause First Second : Type}

/-- Two steps succeed exactly if the first does, and then the second on its value. -/
theorem bind_eq_ok_iff {step : Except Cause First} {next : First → Except Cause Second}
    {result : Second} :
    step >>= next = .ok result ↔ ∃ value, step = .ok value ∧ next value = .ok result := by
  cases step with
  | error cause =>
      constructor
      · intro succeeded
        cases succeeded
      · rintro ⟨_, impossible, _⟩
        cases impossible
  | ok value =>
      constructor
      · intro succeeded
        exact ⟨value, rfl, succeeded⟩
      · rintro ⟨_, same, succeeded⟩
        cases same
        exact succeeded

theorem map_eq_ok_iff {step : Except Cause First} {shown : First → Second} {result : Second} :
    step.map shown = .ok result ↔ ∃ value, step = .ok value ∧ shown value = result := by
  cases step with
  | error cause => simp [Except.map]
  | ok value => simp [Except.map]

theorem eq_ok_of_toOption {step : Except Cause First} {value : First}
    (succeeds : step.toOption = some value) : step = .ok value := by
  cases step with
  | error cause => cases succeeds
  | ok found =>
      cases succeeds
      rfl

/-- A list of steps succeeds exactly if each one does, with the results in order. -/
theorem mapM_eq_ok_iff {step : First → Except Cause Second} {inputs : List First}
    {results : List Second} :
    inputs.mapM step = .ok results ↔
      List.Forall₂ (fun input result => step input = .ok result) inputs results := by
  induction inputs generalizing results with
  | nil =>
      rw [List.mapM_nil, List.forall₂_nil_left_iff]
      constructor
      · intro succeeded
        cases succeeded
        rfl
      · rintro rfl
        rfl
  | cons input later ih =>
      rw [List.mapM_cons, bind_eq_ok_iff, List.forall₂_cons_left_iff]
      constructor
      · rintro ⟨result, first, succeeded⟩
        obtain ⟨rest, others, same⟩ := bind_eq_ok_iff.mp succeeded
        cases same
        exact ⟨result, rest, first, ih.mp others, rfl⟩
      · rintro ⟨result, rest, first, others, rfl⟩
        exact ⟨result, first, bind_eq_ok_iff.mpr ⟨rest, ih.mpr others, rfl⟩⟩

/-- What is paired with every element of a list holds for each of them. -/
theorem exists_of_forall₂ {related : First → Second → Prop} {inputs : List First}
    {results : List Second} (paired : List.Forall₂ related inputs results) {input : First}
    (listed : input ∈ inputs) : ∃ result ∈ results, related input result := by
  induction paired with
  | nil => exact (List.not_mem_nil listed).elim
  | cons first _ ih =>
      rcases List.mem_cons.mp listed with rfl | listed
      · exact ⟨_, List.mem_cons_self, first⟩
      · obtain ⟨result, later, holds⟩ := ih listed
        exact ⟨result, List.mem_cons_of_mem _ later, holds⟩

/-- Pairs may be compared knowing that their inputs are listed. -/
theorem forall₂_imp_of_mem {related compared : First → Second → Prop} {inputs : List First}
    {results : List Second} (paired : List.Forall₂ related inputs results)
    (step : ∀ input ∈ inputs, ∀ result, related input result → compared input result) :
    List.Forall₂ compared inputs results := by
  have listed := (List.forall₂_and_left inputs results).mpr
    ⟨fun _ member => member, paired⟩
  exact listed.imp fun input result both => step input both.1 result both.2

/-- Pairs that show the same have lists that show the same. -/
theorem map_eq_of_forall₂ {related : First → Second → Prop} {inputs : List First}
    {results : List Second} (paired : List.Forall₂ related inputs results) {Shown : Type}
    {seen : First → Shown} {shown : Second → Shown}
    (agree : ∀ input result, related input result → shown result = seen input) :
    results.map shown = inputs.map seen := by
  induction paired with
  | nil => rfl
  | cons first _ ih => rw [List.map_cons, List.map_cons, agree _ _ first, ih]

/-! ### Causes of failure -/

/-- The cause for which a step fails, if it does. -/
def failure? : Except Cause First → Option Cause
  | .ok _ => none
  | .error cause => some cause

theorem failure?_eq_some_iff {step : Except Cause First} {cause : Cause} :
    failure? step = some cause ↔ step = .error cause := by
  cases step <;> simp [failure?]

theorem failure?_eq_none_iff {step : Except Cause First} :
    failure? step = none ↔ ∃ value, step = .ok value := by
  cases step <;> simp [failure?]

/-- A chain fails as its first step does, or else as the next one. -/
theorem failure?_bind {step : Except Cause First} {next : First → Except Cause Second}
    (later : Option Cause) (after : ∀ value, step = .ok value → failure? (next value) = later) :
    failure? (step >>= next) = (failure? step).or later := by
  cases step with
  | error cause => rfl
  | ok value => exact after value rfl

/-- A step taken for every element of a list fails as the first one that fails. -/
theorem failure?_mapM (step : First → Except Cause Second) (inputs : List First) :
    failure? (inputs.mapM step) = inputs.findSome? fun input => failure? (step input) := by
  induction inputs with
  | nil => rfl
  | cons input later ih =>
      rw [List.mapM_cons, failure?_bind (failure? (later.mapM step)), List.findSome?_cons,
        ih]
      · cases failure? (step input) <;> rfl
      · intro value _
        rw [failure?_bind none, Option.or_none]
        intro _ _
        rfl

end ElementTypings
