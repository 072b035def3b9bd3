import ElementTypings.Proofs.Json.Places
import ElementTypings.Proofs.Outcome
import ElementTypings.Proofs.Registry.DistinctTags
import ElementTypings.Proofs.Registry.Written

/-!
# The round trip of a registry

A location that was read is the one that its word stands for, so every registry that was read is
canonical (`Registry.canonical_of_ofJson`), and the document that is written for it is read as the
same registry (`Registry.ofSource_json`).
-/

namespace ElementTypings

open Json.Reader

/-- A location that was read from a word is the one that its own word stands for. -/
theorem TypeLocation.ofWord_word_ofWord (text : String) :
    ofWord (ofWord text).word = ofWord text := by
  apply ofWord_word
  intro kind unknown
  have same : text = kind := by
    unfold ofWord at unknown
    split at unknown <;> cases unknown
    rfl
  rw [← same] at unknown ⊢
  exact unknown

namespace Registry

/-! ### Canonical drafts -/

/-- The location that was read, if any, is the one that its word stands for. -/
def ReferenceDraft.Canonical (draft : ReferenceDraft) : Prop :=
  ∀ location, draft.location = some location → TypeLocation.ofWord location.word = location

/-- The references that were read are canonical. -/
def AttributeDraft.Canonical (draft : AttributeDraft) : Prop :=
  ∀ reference ∈ draft.references, reference.Canonical

/-- The type that was read, if any, is canonical. -/
def MemberDraft.Canonical (draft : MemberDraft) : Prop :=
  ∀ type, draft.type = some type → type.Canonical

/-- The members that were read are canonical. -/
def ComponentDraft.Canonical (draft : ComponentDraft) : Prop :=
  EachValue Member.Canonical draft.members

theorem wanted_eq_ok {Value : Type} {field : String} {found : Option Value} {value : Value}
    (present : wanted field found = .ok value) : found = some value := by
  cases found with
  | none => cases present
  | some other =>
      cases present
      rfl

/-! ### Canonical records -/

/-- Only canonical references are read. -/
theorem gives_reference : Gives TypeReference.Canonical referenceRecord.read := by
  have keeps : ∀ field ∈ referenceRecord.fields, ∀ draft, ReferenceDraft.Canonical draft →
      Gives ReferenceDraft.Canonical (field.read draft) := by
    refine List.forall_mem_cons.mpr ⟨fun draft holds => .after fun _ => .pure holds, ?_⟩
    refine List.forall_mem_cons.mpr ⟨fun draft _ => .after fun word => .pure ?_, ?_⟩
    · intro location same
      cases same
      exact TypeLocation.ofWord_word_ofWord word
    · exact List.forall_mem_singleton.mpr fun draft holds => .after fun _ => .pure holds
  refine Record.gives_read nofun keeps fun draft reference holds finished => ?_
  obtain ⟨name, -, finished⟩ := bind_eq_ok_iff.mp finished
  obtain ⟨location, read, finished⟩ := bind_eq_ok_iff.mp finished
  cases finished
  exact holds location (wanted_eq_ok read)

theorem gives_type : Gives AttributeType.Canonical attributeRecord.read := by
  have keeps : ∀ field ∈ attributeRecord.fields, ∀ draft, AttributeDraft.Canonical draft →
      Gives AttributeDraft.Canonical (field.read draft) := by
    refine List.forall_mem_cons.mpr ⟨fun draft holds => .after fun _ => .pure holds, ?_⟩
    refine List.forall_mem_singleton.mpr fun draft _ => ?_
    exact (gives_list gives_reference).bind fun references each => .pure each
  refine Record.gives_read nofun keeps fun draft type holds finished => ?_
  obtain ⟨text, -, finished⟩ := bind_eq_ok_iff.mp finished
  cases finished
  exact holds

theorem gives_member : Gives Member.Canonical memberRecord.read := by
  have keeps : ∀ field ∈ memberRecord.fields, ∀ draft, MemberDraft.Canonical draft →
      Gives MemberDraft.Canonical (field.read draft) := by
    refine List.forall_mem_cons.mpr ⟨fun draft holds => .after fun _ => .pure holds, ?_⟩
    refine List.forall_mem_singleton.mpr fun draft _ => ?_
    exact (gives_optional gives_type).bind fun type present => .pure present
  refine Record.gives_read nofun keeps fun draft member holds finished => ?_
  obtain ⟨kind, -, finished⟩ := bind_eq_ok_iff.mp finished
  cases finished
  exact holds

/-- Only canonical components are read. -/
theorem gives_component : Gives Component.Canonical componentRecord.read := by
  have keeps : ∀ field ∈ componentRecord.fields, ∀ draft, ComponentDraft.Canonical draft →
      Gives ComponentDraft.Canonical (field.read draft) := by
    refine List.forall_mem_cons.mpr ⟨fun draft holds => .after fun _ => .pure holds, ?_⟩
    refine List.forall_mem_cons.mpr ⟨fun draft holds => .after fun _ => .pure holds, ?_⟩
    refine List.forall_mem_cons.mpr ⟨fun draft _ => ?_, ?_⟩
    · exact (gives_map gives_member).bind fun members each => .pure each
    · exact List.forall_mem_singleton.mpr fun draft holds => .after fun _ => .pure holds
  refine Record.gives_read nofun keeps fun draft component holds finished => ?_
  obtain ⟨tagName, -, finished⟩ := bind_eq_ok_iff.mp finished
  obtain ⟨className, -, finished⟩ := bind_eq_ok_iff.mp finished
  obtain ⟨sourcePath, -, finished⟩ := bind_eq_ok_iff.mp finished
  cases finished
  exact holds

/-- A registry that was read is canonical. -/
theorem canonical_of_ofJson {document : String} {registry : Registry}
    (accepted : ofJson document = .ok registry) : registry.Canonical := by
  obtain ⟨files, read, rfl⟩ := map_eq_ok_iff.mp accepted
  exact Json.holds_of_read (gives_map (gives_optional gives_component)) read

/-- **Registries survive a round trip.** What is accepted as a registry, with distinct tags, is
written as a document that is accepted as the same registry under any name. -/
theorem ofSource_json {source : SourceText} {registry : Registry}
    (accepted : ofSource source = .ok registry) (name : String) :
    ofSource { name, content := registry.json } = .ok registry := by
  obtain ⟨read, distinct⟩ := ofSource_eq_ok_iff.mp accepted
  exact ofSource_eq_ok_iff.mpr ⟨ofJson_json (canonical_of_ofJson read), distinct⟩

/-- A scan whose component is given as a list of its fields. -/
def listedScan : SourceText :=
  { name := "scan.json"
    content := "\x7b\"b\":null,\"a\":[\"x\\u002da\",\"Ä\"," ++
      "\x7b\"m\":[\"prop\",[\"T\",[[\"T\",\"imported\"]]]]\x7d,\"a\"],\"b\":null\x7d" }

/-- The registry of the scan. -/
def listedRegistry : Registry :=
  ⟨.ofList
    [("b", none),
      ("a", some
        { tagName := "x-a"
          className := "Ä"
          members := .ofList
            [("m",
                { kind := .property
                  type := some
                    { text := "T"
                      references := [{ name := "T", location := .module, path := none }] } })]
          sourcePath := "a" })]⟩

/-- The document is not the one that was read, but it is read as the same registry. -/
theorem ofSource_json_of_listed :
    ofSource listedScan = .ok listedRegistry ∧
      ofSource { name := "again.json", content := listedRegistry.json } = .ok listedRegistry := by
  have accepted : ofSource listedScan = .ok listedRegistry :=
    eq_ok_of_toOption (by decide +kernel)
  exact ⟨accepted, ofSource_json accepted "again.json"⟩

end Registry

end ElementTypings
