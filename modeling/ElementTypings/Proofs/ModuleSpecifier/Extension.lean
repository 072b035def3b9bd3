import ElementTypings.Path.Lexical
import ElementTypings.Proofs.Path.Route
import Mathlib.Data.List.ModifyLast

/-!
# The extension of a TypeScript file

A path loses one trailing `.tsx` or `.ts`. No extension reaches over a slash, so the extension of a
path is that of its last segment (`ModuleSpecifier.stem_intercalate`), and the text of a path
without its extension is that of the path whose last segment has none (`ModuleSpecifier.stem_text`).
A step up has no extension: a route loses that of its target (`ModuleSpecifier.stemLast_route`).
-/

namespace ElementTypings.ModuleSpecifier

open LexicalPath

/-- A text without the extension that it begins with, both read backwards. -/
private def dropEnding : List Char → List Char
  | 'x' :: 's' :: 't' :: '.' :: rest => rest
  | 's' :: 't' :: '.' :: rest => rest
  | other => other

/-- A text with neither ending is kept. -/
private theorem dropEnding_of_ne {text : List Char}
    (long : ∀ rest, text ≠ 'x' :: 's' :: 't' :: '.' :: rest)
    (short : ∀ rest, text ≠ 's' :: 't' :: '.' :: rest) : dropEnding text = text := by
  unfold dropEnding
  split
  · exact (long _ rfl).elim
  · exact (short _ rfl).elim
  · rfl

/-- No extension reaches over a slash. -/
private theorem dropEnding_append_slash (text rest : List Char) :
    dropEnding (text ++ '/' :: rest) = dropEnding text ++ '/' :: rest := by
  fun_cases dropEnding text with
  | case1 => rfl
  | case2 => rfl
  | case3 long short =>
    apply dropEnding_of_ne
    · intro more same
      rcases text with _ | ⟨a, _ | ⟨b, _ | ⟨c, _ | ⟨d, others⟩⟩⟩⟩ <;> simp_all
    · intro more same
      rcases text with _ | ⟨a, _ | ⟨b, _ | ⟨c, others⟩⟩⟩ <;> simp_all

/-- Dropping an ending leaves the rest of the text. -/
private theorem dropEnding_suffix (text : List Char) : dropEnding text <:+ text := by
  fun_cases dropEnding text with
  | case1 rest => exact ⟨['x', 's', 't', '.'], rfl⟩
  | case2 rest => exact ⟨['s', 't', '.'], rfl⟩
  | case3 => exact List.suffix_refl text

/-- A text without one trailing `.tsx` or `.ts`. -/
def stem (text : List Char) : List Char :=
  (dropEnding text.reverse).reverse

theorem stripExtension_eq (path : String) :
    stripExtension path = String.ofList (stem path.toList) := by
  unfold stripExtension stem dropEnding
  split <;> simp_all

/-- The extension is dropped behind the last slash: what stands before is kept. -/
theorem stem_append_slash (before text : List Char) :
    stem (before ++ '/' :: text) = before ++ '/' :: stem text := by
  unfold stem
  rw [List.reverse_append, List.reverse_cons, List.append_assoc, List.singleton_append,
    dropEnding_append_slash]
  simp

/-- What is left is the beginning of the text. -/
theorem stem_isPrefix (text : List Char) : stem text <+: text := by
  have suffix := dropEnding_suffix text.reverse
  rw [← List.reverse_prefix, List.reverse_reverse] at suffix
  exact suffix

/-- The segments without the extension of the last one. -/
def stemLast (segments : List Segment) : List Segment :=
  segments.modifyLast stem

/-- Only the last segment loses its extension, so earlier ones are kept. -/
theorem stemLast_append {later : List Segment} (some : later ≠ []) (earlier : List Segment) :
    stemLast (earlier ++ later) = earlier ++ stemLast later :=
  List.modifyLast_append_of_right_ne_nil stem earlier later some

theorem stemLast_concat (earlier : List Segment) (last : Segment) :
    stemLast (earlier ++ [last]) = earlier ++ [stem last] :=
  List.modifyLast_concat stem last earlier

/-- The extension of a path is that of its last segment. -/
theorem stem_intercalate (segments : List Segment) :
    stem (List.intercalate ['/'] segments) = List.intercalate ['/'] (stemLast segments) := by
  rcases List.eq_nil_or_concat segments with rfl | ⟨earlier, last, rfl⟩
  · rfl
  · rw [List.concat_eq_append, stemLast_concat]
    by_cases first : earlier = []
    · subst first
      simp
    · rw [Text.intercalate_append_singleton '/' first, Text.intercalate_append_singleton '/' first,
        stem_append_slash]

theorem length_stemLast (segments : List Segment) :
    (stemLast segments).length = segments.length := by
  rcases List.eq_nil_or_concat segments with rfl | ⟨earlier, last, rfl⟩
  · rfl
  · rw [List.concat_eq_append, stemLast_concat, List.length_append, List.length_append]
    rfl

/-- What stands before the last segment stays as it is. -/
theorem dropLast_stemLast (segments : List Segment) :
    (stemLast segments).dropLast = segments.dropLast := by
  rcases List.eq_nil_or_concat segments with rfl | ⟨earlier, last, rfl⟩
  · rfl
  · rw [List.concat_eq_append, stemLast_concat, List.dropLast_concat, List.dropLast_concat]

/-- A list whose last segment has lost its extension shows what it began with. -/
theorem exists_of_stemLast_eq_concat {target start : List Segment} {last : Segment}
    (left : stemLast target = start ++ [last]) :
    ∃ name, target = start ++ [name] ∧ stem name = last := by
  rcases List.eq_nil_or_concat target with rfl | ⟨earlier, name, rfl⟩
  · cases start <;> cases left
  · rw [List.concat_eq_append, stemLast_concat] at left
    obtain ⟨same, ends⟩ := List.append_inj' left rfl
    exact ⟨name, by rw [List.concat_eq_append, same], List.singleton_inj.mp ends⟩

theorem drop_stemLast (segments : List Segment) (count : Nat) :
    (stemLast segments).drop count = stemLast (segments.drop count) := by
  by_cases none : segments.drop count = []
  · rw [none]
    apply List.drop_eq_nil_of_le
    rw [length_stemLast]
    exact List.drop_eq_nil_iff.mp none
  · have within : count < segments.length := by
      rw [List.drop_eq_nil_iff] at none
      omega
    have whole : stemLast segments = segments.take count ++ stemLast (segments.drop count) := by
      rw [← stemLast_append none, List.take_append_drop]
    rw [whole, List.drop_left' (List.length_take_of_le (Nat.le_of_lt within))]

/-- A segment is one of before, or the last of them without its extension. -/
theorem mem_stemLast {segments : List Segment} {segment : Segment}
    (member : segment ∈ stemLast segments) :
    segment ∈ segments ∨ ∃ last, segments.getLast? = some last ∧ segment = stem last := by
  rcases List.eq_nil_or_concat segments with rfl | ⟨earlier, last, rfl⟩
  · exact Or.inl member
  · rw [List.concat_eq_append, stemLast_concat, List.mem_append] at member
    rw [List.concat_eq_append]
    rcases member with old | new
    · exact Or.inl (List.mem_append_left _ old)
    · exact Or.inr ⟨last, List.getLast?_concat, List.mem_singleton.mp new⟩

/-- On a normalized path the extension is dropped from the last segment. -/
theorem stem_text {path : LexicalPath} (normal : path.IsNormal) :
    stem path.text = path.root.text ++ List.intercalate ['/'] (stemLast path.segments) := by
  obtain ⟨start, rooted⟩ := PathRoot.exists_text_eq_append_slash normal.absolute
  rw [normal.text_eq, rooted, List.append_assoc, List.singleton_append, stem_append_slash,
    stem_intercalate, List.append_assoc, List.singleton_append]

/-- A normal path without its extension is normal, if a name remains of its last name. -/
theorem isNormal_stemLast {path : LexicalPath} (normal : path.IsNormal)
    (ordinary : ∀ name ∈ path.segments.getLast?, IsName (stem name)) :
    ({ path with segments := stemLast path.segments } : LexicalPath).IsNormal := by
  refine ⟨normal.lawful, normal.absolute, fun segment listed => ?_⟩
  rcases mem_stemLast listed with old | ⟨last, ends, rfl⟩
  · exact normal.names segment old
  · exact ordinary last ends

/-- A normal path that has no extension has none at its last name. -/
theorem stem_last {path : LexicalPath} (normal : path.IsNormal)
    (stripped : stem path.text = path.text) {name : Segment}
    (ends : path.segments.getLast? = some name) : stem name = name := by
  obtain ⟨earlier, segments⟩ := List.getLast?_eq_some_iff.mp ends
  rw [stem_text normal, normal.text_eq, segments, stemLast_concat] at stripped
  have joined := List.append_cancel_left stripped
  by_cases first : earlier = []
  · subst first
    simpa [List.intercalate] using joined
  · rw [Text.intercalate_append_singleton '/' first,
      Text.intercalate_append_singleton '/' first] at joined
    exact (List.cons.inj (List.append_cancel_left joined)).2

/-- A drive has no extension. -/
theorem stemLast_steps (root : PathRoot) (segments : List Segment) :
    stemLast (root.steps ++ segments) = root.steps ++ stemLast segments := by
  by_cases none : segments = []
  · subst none
    cases root <;> rfl
  · exact stemLast_append none root.steps

/-! ### Routes without extensions -/

/-- A route loses the extension of its target; the steps up have none. -/
theorem stemLast_route (base target : List Segment) :
    stemLast (route base target) =
      List.replicate (base.length - commonLength base target) up ++
        (stemLast target).drop (commonLength base target) := by
  have way : route base target =
      List.replicate (base.length - commonLength base target) up ++
        target.drop (commonLength base target) := rfl
  rw [way, drop_stemLast]
  by_cases none : target.drop (commonLength base target) = []
  · rw [none, List.append_nil]
    change _ = _ ++ []
    rw [List.append_nil]
    cases base.length - commonLength base target with
    | zero => rfl
    | succ count =>
        rw [List.replicate_succ', stemLast_concat]
        rfl
  · exact stemLast_append none _

end ElementTypings.ModuleSpecifier
