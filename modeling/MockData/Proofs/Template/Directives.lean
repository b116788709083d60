import MockData.Template.Basic

/-!
# The directives of a template

`directives` lists the directives of a template whole, in the order in which they are visited. The
sites and the calls of a template are what is read off that list.
-/

namespace MockData

namespace Template

mutual
/-- The directives of a template, an outer one before those inside it. -/
def directives : Template → List Template
  | .literal _ => []
  | .sequence items => directivesItems items
  | .mapping entries => directivesEntries entries
  | .faker place path args => [.faker place path args]
  | .array place cardinality element => .array place cardinality element :: directives element
  | .oneOf place options => .oneOf place options :: directivesItems options
  | .nullable place probability value => .nullable place probability value :: directives value
def directivesItems : List Template → List Template
  | [] => []
  | t :: rest => directives t ++ directivesItems rest
def directivesEntries : List (String × Template) → List Template
  | [] => []
  | (_, t) :: rest => directives t ++ directivesEntries rest
end

def site? : Template → Option Site
  | .faker place _ _ => some ⟨.faker, place⟩
  | .array place _ _ => some ⟨.array, place⟩
  | .oneOf place _ => some ⟨.oneOf, place⟩
  | .nullable place _ _ => some ⟨.nullable, place⟩
  | _ => none

def call? : Template → Option Call
  | .faker place path _ => some ⟨place, path⟩
  | _ => none

mutual
theorem sites_eq : ∀ t : Template, t.sites = t.directives.filterMap site?
  | .literal _ => rfl
  | .sequence items => by rw [sites, directives, sitesItems_eq]
  | .mapping entries => by rw [sites, directives, sitesEntries_eq]
  | .faker _ _ _ => rfl
  | .array _ _ element => by simp [sites, directives, site?, sites_eq element]
  | .oneOf _ options => by simp [sites, directives, site?, sitesItems_eq options]
  | .nullable _ _ value => by simp [sites, directives, site?, sites_eq value]
theorem sitesItems_eq : ∀ items : List Template,
    sitesItems items = (directivesItems items).filterMap site?
  | [] => rfl
  | t :: rest => by
    rw [sitesItems, directivesItems, List.filterMap_append, sites_eq t, sitesItems_eq rest]
theorem sitesEntries_eq : ∀ entries : List (String × Template),
    sitesEntries entries = (directivesEntries entries).filterMap site?
  | [] => rfl
  | (_, t) :: rest => by
    rw [sitesEntries, directivesEntries, List.filterMap_append, sites_eq t, sitesEntries_eq rest]
end

mutual
theorem calls_eq : ∀ t : Template, t.calls = t.directives.filterMap call?
  | .literal _ => rfl
  | .sequence items => by rw [calls, directives, callsItems_eq]
  | .mapping entries => by rw [calls, directives, callsEntries_eq]
  | .faker _ _ _ => rfl
  | .array _ _ element => by
    rw [calls, directives, List.filterMap_cons_none rfl, calls_eq element]
  | .oneOf _ options => by
    rw [calls, directives, List.filterMap_cons_none rfl, callsItems_eq options]
  | .nullable _ _ value => by
    rw [calls, directives, List.filterMap_cons_none rfl, calls_eq value]
theorem callsItems_eq : ∀ items : List Template,
    callsItems items = (directivesItems items).filterMap call?
  | [] => rfl
  | t :: rest => by
    rw [callsItems, directivesItems, List.filterMap_append, calls_eq t, callsItems_eq rest]
theorem callsEntries_eq : ∀ entries : List (String × Template),
    callsEntries entries = (directivesEntries entries).filterMap call?
  | [] => rfl
  | (_, t) :: rest => by
    rw [callsEntries, directivesEntries, List.filterMap_append, calls_eq t, callsEntries_eq rest]
end

theorem mem_sites_of_faker {t : Template} {place : Location} {path : String}
    {args : Option (List (String × Json))} (member : .faker place path args ∈ t.directives) :
    ⟨.faker, place⟩ ∈ t.sites := by
  rw [sites_eq]
  exact List.mem_filterMap.mpr ⟨_, member, rfl⟩

theorem mem_calls_of_faker {t : Template} {place : Location} {path : String}
    {args : Option (List (String × Json))} (member : .faker place path args ∈ t.directives) :
    ⟨place, path⟩ ∈ t.calls := by
  rw [calls_eq]
  exact List.mem_filterMap.mpr ⟨_, member, rfl⟩

/-- What a directive keeps to: a call names something, bounds are in order, there is an option to
choose, and a probability is one. -/
def Sound : Template → Prop
  | .faker _ path _ => path ≠ ""
  | .array _ (.range min max) _ => min ≤ max
  | .oneOf _ options => options ≠ []
  | .nullable _ probability _ => probability.isProbability
  | _ => True

def AllSound (t : Template) : Prop := ∀ n ∈ t.directives, n.Sound

end Template

end MockData
