import MockData.Proofs.Template.Grammar

/-!
# What is compiled

A template that is compiled from an object is a mapping of what its members are compiled to, or a
directive that was read from it (`compileWithin_object_ok`). Everything inside is compiled as well.
-/

namespace MockData

namespace Template

open Shape

section

variable {compileAt : Location → Json → Except DirectiveError Template} {place : Location}

theorem compileItems_each {items : List Json} {index : Nat} {ts : List Template}
    (compiled : compileItems compileAt place index items = .ok ts) :
    ∀ item ∈ items, ∃ place t, compileAt place item = .ok t := by
  induction items generalizing index ts with
  | nil => exact List.forall_mem_nil _
  | cons item rest ih =>
    obtain ⟨t, one, compiled⟩ := bind_ok.mp compiled
    obtain ⟨others, more, _⟩ := bind_ok.mp compiled
    exact List.forall_mem_cons.mpr ⟨⟨_, t, one⟩, ih more⟩

theorem compileMembers_each {members : List (String × Json)} {ts : List (String × Template)}
    (compiled : compileMembers compileAt place members = .ok ts) :
    ∀ m ∈ members, ∃ place t, compileAt place m.2 = .ok t := by
  induction members generalizing ts with
  | nil => exact List.forall_mem_nil _
  | cons m rest ih =>
    obtain ⟨t, one, compiled⟩ := bind_ok.mp compiled
    obtain ⟨others, more, _⟩ := bind_ok.mp compiled
    exact List.forall_mem_cons.mpr ⟨⟨_, t, one⟩, ih more⟩

theorem compileShape_each {shape : Shape} {t : Template}
    (compiled : compileShape compileAt place shape = .ok t) :
    ∀ v ∈ shape.templates, ∃ place t, compileAt place v = .ok t := by
  cases shape with
  | faker path args => exact List.forall_mem_nil _
  | array cardinality element =>
    obtain ⟨t, one, _⟩ := bind_ok.mp compiled
    exact List.forall_mem_singleton.mpr ⟨_, t, one⟩
  | oneOf inside options =>
    obtain ⟨ts, all, _⟩ := bind_ok.mp compiled
    exact compileItems_each all
  | nullable probability value =>
    obtain ⟨t, one, _⟩ := bind_ok.mp compiled
    exact List.forall_mem_singleton.mpr ⟨_, t, one⟩

end

variable {limit levels : Nat} {place : Location} {t : Template}

/-- An object is compiled member by member if it has no directive key, and as the one directive
that is read from it otherwise. -/
theorem compileWithin_object_ok {members : List (String × Json)}
    (compiled : compileWithin limit (levels + 1) place (.object members) = .ok t) :
    (IsPlain members ∧ ∃ ts, compileMembers (compileWithin limit levels) place members = .ok ts ∧
      t = .mapping ts) ∨
    ∃ kind payload shape, IsDirective kind members payload ∧ Reads members kind payload shape ∧
      compileShape (compileWithin limit levels) place shape = .ok t := by
  unfold compileWithin at compiled
  dsimp only at compiled
  split at compiled
  · exact nomatch compiled
  · rename_i read
    obtain ⟨ts, all, rfl⟩ := map_ok.mp compiled
    exact .inl ⟨read?_none.mp read, ts, all, rfl⟩
  · rename_i shape read
    obtain ⟨kind, payload, directive, reads⟩ := read?_some.mp read
    exact .inr ⟨kind, payload, shape, directive, reads, compiled⟩

end Template

end MockData
