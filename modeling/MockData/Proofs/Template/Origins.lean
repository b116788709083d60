import Mathlib.Data.List.Forall2
import MockData.Proofs.Template.Compilation
import MockData.Proofs.Template.Directives
import MockData.Proofs.Template.Sources

/-!
# Where directives come from

The directives of a compiled template are those of the value, in the same order, each compiled from
the object that it is listed with (`compile_origins`).
-/

namespace MockData

theorem Location.text_child (place : Location) (token : String) :
    (place.child token).text = Pointer.child place.text token := by
  simp [text, child]

namespace Template

open Shape

/-- The directive is what is compiled from an object of the value, at the pointer to it. -/
def CompiledFrom (limit : Nat) (n : Template) (s : Source) : Prop :=
  ∃ place levels, n.site? = some ⟨s.kind, place⟩ ∧ place.text = s.pointer ∧
    compileWithin limit levels place (.object s.members) = .ok n

abbrev Origins (limit : Nat) (t : Template) (pointer : String) (v : Json) : Prop :=
  List.Forall₂ (CompiledFrom limit) t.directives (sources .template pointer v)

section

variable {compileAt : Location → Json → Except DirectiveError Template} {place : Location}
  {limit : Nat}

theorem compileItems_origins {items : List Json}
    (inside : ∀ item ∈ items, ∀ place t, compileAt place item = .ok t →
      Origins limit t place.text item)
    {index : Nat} {ts : List Template}
    (compiled : compileItems compileAt place index items = .ok ts) :
    List.Forall₂ (CompiledFrom limit) (directivesItems ts)
      (sourcesItems .template place.text index items) := by
  induction items generalizing index ts with
  | nil =>
    cases compiled
    exact .nil
  | cons item rest ih =>
    obtain ⟨first, others⟩ := List.forall_mem_cons.mp inside
    obtain ⟨t, one, compiled⟩ := bind_ok.mp compiled
    obtain ⟨more, all, result⟩ := bind_ok.mp compiled
    obtain rfl := pure_ok.mp result
    have here := first _ _ one
    rw [Location.item, Location.text_child] at here
    exact List.rel_append here (ih others all)

theorem compileMembers_origins {members : List (String × Json)}
    (inside : ∀ m ∈ members, ∀ place t, compileAt place m.2 = .ok t →
      Origins limit t place.text m.2)
    {ts : List (String × Template)}
    (compiled : compileMembers compileAt place members = .ok ts) :
    List.Forall₂ (CompiledFrom limit) (directivesEntries ts)
      (sourcesMembers (fun _ => .template) place.text members) := by
  induction members generalizing ts with
  | nil =>
    cases compiled
    exact .nil
  | cons m rest ih =>
    obtain ⟨first, others⟩ := List.forall_mem_cons.mp inside
    obtain ⟨t, one, compiled⟩ := bind_ok.mp compiled
    obtain ⟨more, all, result⟩ := bind_ok.mp compiled
    obtain rfl := pure_ok.mp result
    have here := first _ _ one
    rw [Location.text_child] at here
    exact List.rel_append here (ih others all)

/-- A directive stands before those that are inside it. -/
theorem compileShape_origins {members : List (String × Json)} {kind : DirectiveKind}
    {payload : Json} {shape : Shape} {levels : Nat} {t : Template}
    (directive : IsDirective kind members payload) (reads : Reads members kind payload shape)
    (distinct : (Json.object members).keysDistinct)
    (inside : ∀ v : Json, v.keysDistinct → ∀ place t, compileAt place v = .ok t →
      Origins limit t place.text v)
    (whole : compileWithin limit levels place (.object members) = .ok t)
    (compiled : compileShape compileAt place shape = .ok t) :
    Origins limit t place.text (.object members) := by
  have within : payload.keysDistinct :=
    Json.keysDistinct_of_mem distinct _ (Json.mem_of_find? directive.payload)
  have origin (site : t.site? = some ⟨kind, place⟩) :
      CompiledFrom limit t ⟨kind, place.text, members⟩ := ⟨place, levels, site, rfl, whole⟩
  rw [Origins, sources_directive directive distinct]
  cases reads with
  | faker _ _ _ =>
    cases compiled
    rw [sources_faker]
    exact .cons (origin rfl) .nil
  | @array inner _ _ _ _ =>
    obtain ⟨element, one, result⟩ := bind_ok.mp compiled
    obtain rfl := pure_ok.mp result
    have below := inside _ (distinct_memberOrNull within "element") _ _ one
    rw [Location.text_child, Location.text_child] at below
    rw [sources_array within]
    exact .cons (origin rfl) below
  | @oneOf _ _ options _ listed _ =>
    obtain ⟨ts, all, result⟩ := bind_ok.mp compiled
    obtain rfl := pure_ok.mp result
    refine .cons (origin rfl) ?_
    -- The options are one token deeper in the long spelling.
    cases listed with
    | short options =>
      have each : ∀ option ∈ options, ∀ place t, compileAt place option = .ok t →
          Origins limit t place.text option := fun option member =>
        inside option (Json.keysDistinct_array.mp within option member)
      have below := compileItems_origins each all
      rwa [List.foldl_nil, Location.text_child] at below
    | @long inner _ _ found =>
      have list : (Json.array options).keysDistinct :=
        Json.keysDistinct_of_mem within _ (Json.mem_of_find? found)
      have each : ∀ option ∈ options, ∀ place t, compileAt place option = .ok t →
          Origins limit t place.text option := fun option member =>
        inside option (Json.keysDistinct_array.mp list option member)
      have below := compileItems_origins each all
      rw [List.foldl_cons, List.foldl_nil, Location.text_child, Location.text_child] at below
      rw [sources_oneOf within, memberOrNull_of_find? found]
      exact below
  | @nullable inner _ _ _ _ =>
    obtain ⟨value, one, result⟩ := bind_ok.mp compiled
    obtain rfl := pure_ok.mp result
    have below := inside _ (distinct_memberOrNull within "value") _ _ one
    rw [Location.text_child, Location.text_child] at below
    rw [sources_nullable within]
    exact .cons (origin rfl) below

end

theorem compileWithin_origins {limit levels : Nat} {place : Location} {v : Json} {t : Template}
    (distinct : v.keysDistinct) (compiled : compileWithin limit levels place v = .ok t) :
    Origins limit t place.text v := by
  induction levels generalizing place v t with
  | zero => exact nomatch compiled
  | succ levels ih =>
    cases v with
    | array items =>
      obtain ⟨ts, all, rfl⟩ := map_ok.mp compiled
      refine compileItems_origins (fun item member place t one => ?_) all
      exact ih (Json.keysDistinct_array.mp distinct item member) one
    | object members =>
      rcases compileWithin_object_ok compiled with ⟨plain, ts, all, rfl⟩ |
        ⟨kind, payload, shape, directive, reads, inside⟩
      · rw [Origins, sources_plain plain]
        refine compileMembers_origins (fun m member place t one => ?_) all
        exact ih (Json.keysDistinct_of_mem distinct m member) one
      · exact compileShape_origins directive reads distinct (fun v d place t one => ih d one)
          compiled inside
    | _ =>
      cases compiled
      exact .nil

/-- The directives of a compiled template are those of the value that it was compiled from. -/
theorem compile_origins {value : Json} {root : String} {limit : Nat} {t : Template}
    (distinct : value.keysDistinct) (compiled : compile value root limit = .ok t) :
    Origins limit t root value :=
  compileWithin_origins distinct compiled

theorem map_sites_of_origins {limit : Nat} {t : Template} {listing : List Source}
    (origins : List.Forall₂ (CompiledFrom limit) t.directives listing) :
    t.sites.map (fun site => (site.kind, site.place.text)) =
      listing.map fun s => (s.kind, s.pointer) := by
  rw [sites_eq]
  generalize t.directives = ts at origins
  induction origins with
  | nil => rfl
  | @cons n s ts listing origin _ ih =>
    obtain ⟨place, _, site, same, _⟩ := origin
    rw [List.filterMap_cons_some site, List.map_cons, List.map_cons, ih, same]

end Template

end MockData
