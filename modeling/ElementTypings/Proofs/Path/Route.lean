import ElementTypings.Proofs.Path.NormalForm

/-!
# The way from one directory to another path

A route goes up to the last segment that source and target share and then down to the target, which
agrees with the source up to there (`LexicalPath.take_commonLength`). The part that leads down has
no step up in it, so the number of steps up can be told from the route
(`LexicalPath.replicate_up_append_injective`).
-/

namespace ElementTypings.LexicalPath

theorem commonLength_le (source target : List Segment) :
    commonLength source target ≤ source.length := by
  induction source generalizing target with
  | nil => exact Nat.zero_le _
  | cons segment later ih =>
      cases target with
      | nil => exact Nat.zero_le _
      | cons first rest =>
          rw [commonLength]
          split
          · exact Nat.succ_le_succ (ih rest)
          · exact Nat.zero_le _

/-- Source and target agree up to the length that they share. -/
theorem take_commonLength (source target : List Segment) :
    target.take (commonLength source target) = source.take (commonLength source target) := by
  induction source generalizing target with
  | nil => cases target <;> rfl
  | cons segment later ih =>
      cases target with
      | nil => rfl
      | cons first rest =>
          rw [commonLength]
          split
          · next same => rw [List.take_succ_cons, List.take_succ_cons, ih rest, same]
          · rfl

/-- A target that is neither the source nor above it has a segment beyond those that they share. -/
theorem commonLength_lt {source target : List Segment} (outside : ¬ target <+: source) :
    commonLength source target < target.length := by
  by_contra reached
  apply outside
  have whole := take_commonLength source target
  rw [List.take_of_length_le (Nat.le_of_not_lt reached)] at whole
  rw [whole]
  exact List.take_prefix _ source

/-- A common start is common, and the rest is compared behind it. -/
theorem commonLength_append_left (start source target : List Segment) :
    commonLength (start ++ source) (start ++ target) =
      start.length + commonLength source target := by
  induction start with
  | nil => rw [List.nil_append, List.nil_append, List.length_nil, Nat.zero_add]
  | cons segment later ih =>
      rw [List.cons_append, List.cons_append, commonLength, if_pos rfl, ih, List.length_cons]
      omega

/-- A target around the source, or the source itself, is shared as a whole. -/
theorem commonLength_of_above {source target : List Segment} (above : target <+: source) :
    commonLength source target = target.length := by
  obtain ⟨below, rfl⟩ := above
  have shared := commonLength_append_left target below []
  rw [List.append_nil] at shared
  rw [shared]
  cases below <;> rfl

/-- The last segment of a target that is neither the source nor above it is never shared. -/
theorem commonLength_dropLast {source target : List Segment} (outside : ¬ target <+: source) :
    commonLength source target.dropLast = commonLength source target := by
  induction source generalizing target with
  | nil => cases target.dropLast <;> cases target <;> rfl
  | cons segment later ih =>
      cases target with
      | nil => exact (outside List.nil_prefix).elim
      | cons first rest =>
          by_cases shared : segment = first
          · subst shared
            have below : ¬ rest <+: later := fun above =>
              outside ((List.prefix_cons_inj segment).mpr above)
            have some : rest ≠ [] := by
              rintro rfl
              exact below List.nil_prefix
            rw [List.dropLast_cons_of_ne_nil some, commonLength, commonLength, if_pos rfl,
              if_pos rfl, ih below]
          · by_cases none : rest = []
            · subst none
              simp [commonLength, shared]
            · rw [List.dropLast_cons_of_ne_nil none, commonLength, commonLength, if_neg shared,
                if_neg shared]

/-- What source and target begin with alike does not count for the way. -/
theorem route_append_left (start source target : List Segment) :
    route (start ++ source) (start ++ target) = route source target := by
  unfold route
  simp only [commonLength_append_left, List.length_append, Nat.add_sub_add_left,
    List.drop_append, Nat.add_sub_cancel_left]
  rw [List.drop_eq_nil_of_le (Nat.le_add_right _ _), List.nil_append]

/-- Steps up in front of a list without any can be counted. -/
theorem replicate_up_append_injective {count count' : Nat} {down down' : List Segment}
    (names : up ∉ down) (names' : up ∉ down')
    (same : List.replicate count up ++ down = List.replicate count' up ++ down') :
    count = count' ∧ down = down' := by
  have counted := congrArg (List.count up) same
  simp only [List.count_append, List.count_replicate_self, List.count_eq_zero_of_not_mem names,
    List.count_eq_zero_of_not_mem names', Nat.add_zero] at counted
  subst counted
  exact ⟨rfl, List.append_cancel_left same⟩

/-- The way is the route between the normal forms, where both paths are absolute. -/
theorem relative_eq_ok_iff {source target way : String} :
    relative source target = .ok way ↔
      isAbsolute source ∧ isAbsolute target ∧
        way = String.ofList (List.intercalate ['/']
          (route (steps (normalize source.toList)) (steps (normalize target.toList)))) := by
  unfold relative
  by_cases rooted : isAbsolute source
  · by_cases absolute : isAbsolute target
    · rw [rooted, absolute, Bool.not_true, if_neg Bool.false_ne_true, if_neg Bool.false_ne_true,
        Except.ok.injEq]
      constructor
      · exact fun same => ⟨rfl, rfl, same.symm⟩
      · exact fun known => known.2.2.symm
    · simp [rooted, absolute]
  · simp [rooted]

end ElementTypings.LexicalPath
