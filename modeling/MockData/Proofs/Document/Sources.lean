import MockData.Proofs.Document.Acceptance
import MockData.Proofs.Template.Origins

/-!
# The directives of a document

The places of the directives in an accepted document are pointers into it, each to the object that
the directive is compiled from. They are in the order of the document, and none is left out or given
twice (`ofJson_sources`).
-/

namespace MockData

open Template

namespace Document

theorem sources_of_readFrom {members : List (String × Json)} {n : Nat} {filename : Option String}
    {source : Json} (distinct : Json.keysDistinctMembers members)
    (given : DocumentSpec.ReadFrom members n filename source) :
    sources .document "" (.object members) = sources .template "/template" source := by
  rw [sources_document distinct, Shape.memberOrNull_of_find? given.source]
  rfl

theorem pointed?_of_mem_sources {value : Json} (distinct : value.keysDistinct) {role : Role}
    {s : Source} (listed : s ∈ sources role "" value) :
    value.pointed? s.pointer = some (.object s.members) := by
  obtain ⟨_, tokens, same, reached⟩ := (mem_sources_iff distinct).mp listed
  rw [same, Json.pointed?_foldl_child]
  exact Role.at?_of_follow? reached

/-- The directives of an accepted document are those at its template positions, in order. The place
of each points to the object that it is compiled from, and no two are in the same place. -/
theorem ofJson_sources {value : Json} (distinct : value.keysDistinct) {limit : Nat}
    {document : Document} (accepted : ofJson value limit = .ok document) :
    document.template.sites.map (fun site => (site.kind, site.place.text)) =
      (sources .document "" value).map (fun s => (s.kind, s.pointer)) ∧
    List.Forall₂ (CompiledFrom limit) document.template.directives (sources .document "" value) ∧
    (∀ s ∈ sources .document "" value, value.pointed? s.pointer = some (.object s.members) ∧
      ∃ payload, Shape.IsDirective s.kind s.members payload) ∧
    (document.template.sites.map fun site => site.place.text).Nodup ∧
    ∀ s, s ∈ sources .document "" value ↔ Shape.kindsOf s.members = [s.kind] ∧ ∃ tokens,
      s.pointer = tokens.foldl Pointer.child "" ∧
        Role.document.follow? value tokens = some (.template, .object s.members) := by
  have origins : List.Forall₂ (CompiledFrom limit) document.template.directives
      (sources .document "" value) := by
    obtain ⟨members, filename, rfl, given, _, _, compiled⟩ := (ofJson_eq_ok distinct).mp accepted
    have within : document.source.keysDistinct :=
      Json.keysDistinct_of_mem distinct _ (Json.mem_of_find? given.source)
    rw [sources_of_readFrom distinct given]
    exact compile_origins within compiled
  have places := map_sites_of_origins origins
  refine ⟨places, origins, ?_, ?_, fun s => mem_sources_iff distinct⟩
  · intro s listed
    have single := ((mem_sources_iff distinct).mp listed).1
    exact ⟨pointed?_of_mem_sources distinct listed, Shape.IsDirective.of_kinds single⟩
  · have texts := congrArg (List.map Prod.snd) places
    rw [List.map_map, List.map_map] at texts
    change List.map _ _ = List.map Source.pointer _ at texts
    exact texts ▸ sources_nodup distinct

theorem ofJson_sources_nested :
    let call : Json := .object
      [("$faker", .string "number.int"), ("args", .object [("min", .object [("$array", .null)])])]
    let long : Json := .object [("$oneOf", .object [("options", .array [.null, call])])]
    let value : Json := .object
      [("template", .object [("a/b~c", .object [("$oneOf", .array [long, call])]), ("0", call)]),
       ("count", .number (.int 1 (by decide)))]
    value.keysDistinct ∧ ∃ document, ofJson value 64 = .ok document ∧
      document.template.sites.map (fun site => (site.kind, site.place.text)) =
        [(.oneOf, "/template/a~1b~0c"),
         (.oneOf, "/template/a~1b~0c/$oneOf/0"),
         (.faker, "/template/a~1b~0c/$oneOf/0/$oneOf/options/1"),
         (.faker, "/template/a~1b~0c/$oneOf/1"),
         (.faker, "/template/0")] := by
  intro call long value
  have distinct : value.keysDistinct := rfl
  obtain ⟨document, accepted⟩ : ∃ document, ofJson value 64 = .ok document := ⟨_, rfl⟩
  obtain ⟨places, _⟩ := ofJson_sources distinct accepted
  refine ⟨distinct, document, accepted, places.trans ?_⟩
  decide +kernel

end Document

end MockData
