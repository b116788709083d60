import MockData.Proofs.Template.Directives
import MockData.Proofs.Template.Shapes
import MockData.Template.Compile

/-!
# Compiled templates are sound

Every directive of a compiled template keeps to what its constructor leaves open: what was checked
when it was read, on every level.
-/

namespace MockData

namespace Template

open Shape

section

variable {compileAt : Location → Json → Except DirectiveError Template} {place : Location}

theorem length_compileItems {items : List Json} {index : Nat} {ts : List Template}
    (compiled : compileItems compileAt place index items = .ok ts) : ts.length = items.length := by
  induction items generalizing index ts with
  | nil =>
    cases compiled
    rfl
  | cons item rest ih =>
    obtain ⟨t, _, compiled⟩ := bind_ok.mp compiled
    obtain ⟨others, more, result⟩ := bind_ok.mp compiled
    obtain rfl := pure_ok.mp result
    rw [List.length_cons, List.length_cons, ih more]

variable (sound : ∀ place v t, compileAt place v = .ok t → t.AllSound)

include sound

theorem compileItems_sound {items : List Json} {index : Nat} {ts : List Template}
    (compiled : compileItems compileAt place index items = .ok ts) :
    ∀ n ∈ directivesItems ts, n.Sound := by
  induction items generalizing index ts with
  | nil =>
    cases compiled
    exact List.forall_mem_nil _
  | cons item rest ih =>
    obtain ⟨t, one, compiled⟩ := bind_ok.mp compiled
    obtain ⟨others, more, result⟩ := bind_ok.mp compiled
    obtain rfl := pure_ok.mp result
    rw [directivesItems, List.forall_mem_append]
    exact ⟨sound _ _ _ one, ih more⟩

theorem compileMembers_sound {members : List (String × Json)} {ts : List (String × Template)}
    (compiled : compileMembers compileAt place members = .ok ts) :
    ∀ n ∈ directivesEntries ts, n.Sound := by
  induction members generalizing ts with
  | nil =>
    cases compiled
    exact List.forall_mem_nil _
  | cons m rest ih =>
    obtain ⟨t, one, compiled⟩ := bind_ok.mp compiled
    obtain ⟨others, more, result⟩ := bind_ok.mp compiled
    obtain rfl := pure_ok.mp result
    rw [directivesEntries, List.forall_mem_append]
    exact ⟨sound _ _ _ one, ih more⟩

theorem compileShape_sound {members : List (String × Json)} {kind : DirectiveKind} {payload : Json}
    {shape : Shape} {t : Template} (reads : Reads members kind payload shape)
    (compiled : compileShape compileAt place shape = .ok t) : t.AllSound := by
  unfold AllSound
  cases reads with
  | faker _ nonempty _ =>
    cases compiled
    exact List.forall_mem_singleton.mpr nonempty
  | array _ _ bounds =>
    obtain ⟨element, one, result⟩ := bind_ok.mp compiled
    obtain rfl := pure_ok.mp result
    rw [directives, List.forall_mem_cons]
    refine ⟨?_, sound _ _ _ one⟩
    cases bounds with
    | fixed _ => trivial
    | range _ _ _ ordered => exact ordered
  | @oneOf _ _ options _ _ nonempty =>
    obtain ⟨ts, all, result⟩ := bind_ok.mp compiled
    obtain rfl := pure_ok.mp result
    rw [directives, List.forall_mem_cons]
    refine ⟨?_, compileItems_sound sound all⟩
    rintro rfl
    exact nonempty (List.length_eq_zero_iff.mp (length_compileItems all).symm)
  | nullable _ _ probability =>
    obtain ⟨value, one, result⟩ := bind_ok.mp compiled
    obtain rfl := pure_ok.mp result
    rw [directives, List.forall_mem_cons]
    exact ⟨probability.isProbability, sound _ _ _ one⟩

end

theorem compileWithin_sound {limit levels : Nat} {place : Location} {v : Json} {t : Template}
    (compiled : compileWithin limit levels place v = .ok t) : t.AllSound := by
  induction levels generalizing place v t with
  | zero => exact nomatch compiled
  | succ levels ih =>
    have inside : ∀ place v t, compileWithin limit levels place v = .ok t → t.AllSound :=
      fun _ _ _ compiled => ih compiled
    cases v with
    | array items =>
      obtain ⟨ts, all, rfl⟩ := map_ok.mp compiled
      exact compileItems_sound inside all
    | object members =>
      unfold compileWithin at compiled
      dsimp only at compiled
      split at compiled
      · exact nomatch compiled
      · obtain ⟨ts, all, rfl⟩ := map_ok.mp compiled
        exact compileMembers_sound inside all
      · rename_i shape read
        obtain ⟨kind, payload, _, reads⟩ := read?_some.mp read
        exact compileShape_sound inside reads compiled
    | _ =>
      cases compiled
      exact List.forall_mem_nil _

/-- Every directive that the compiler lets through is sound. -/
theorem compile_sound {value : Json} {root : String} {limit : Nat} {t : Template}
    (compiled : compile value root limit = .ok t) : t.AllSound :=
  compileWithin_sound compiled

end Template

end MockData
