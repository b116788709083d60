import Mathlib.Data.List.Infix
import MockData.Proofs.Output.FileName

/-!
# The pieces between placeholders

Two placeholders never overlap (`eq_nil_of_prefix_placeholder`), so there is one way to cut a text
at all its placeholders: `exists_pieces` and `Pieces.unique`. Pieces that are put together without
what was between them hold a placeholder only where one piece ends with its beginning and the text
goes on with the rest of it: `infix_flatten_iff`.
-/

namespace MockData

namespace FileName

/-- The pieces of a text that is cut at every placeholder: with placeholders between them they make
up the text, and none is left in any of them. -/
structure Pieces (text : List Char) (pieces : List (List Char)) : Prop where
  nonempty : pieces ≠ []
  joined : placeholder.intercalate pieces = text
  plain : ∀ piece ∈ pieces, ¬ placeholder <:+: piece

section

variable {text front piece rest : List Char} {pieces : List (List Char)}

/-- No placeholder begins as one ends. -/
theorem placeholder_border {tail : List Char} (begins : tail <+: placeholder)
    (ends : tail <:+ placeholder) : tail = [] ∨ tail = placeholder := by
  have all : ∀ tail ∈ placeholder.inits, tail <:+ placeholder → tail = [] ∨ tail = placeholder := by
    decide
  exact all tail ((List.mem_inits _ _).mpr begins) ends

/-- The first placeholder behind a text without one does not begin in that text. -/
theorem eq_nil_of_prefix_placeholder (plain : ¬ placeholder <:+: front)
    (le : placeholder <+: front ++ (placeholder ++ rest)) : front = [] := by
  by_cases long : placeholder.length ≤ front.length
  · exact absurd (List.prefix_of_prefix_length_le le (List.prefix_append _ _) long).isInfix plain
  · obtain ⟨tail, split⟩ := List.prefix_of_prefix_length_le (List.prefix_append front _) le
      (Nat.le_of_not_le long)
    -- What of the first placeholder is behind the text begins the second one.
    have behind : tail <+: placeholder ++ rest := by
      rw [← List.prefix_append_right_inj front, split]
      exact le
    have shorter : tail.length ≤ placeholder.length := by
      rw [← split, List.length_append]
      omega
    have begins := List.prefix_of_prefix_length_le behind (List.prefix_append _ _) shorter
    rcases placeholder_border begins ⟨front, split⟩ with none | all
    · rw [none, List.append_nil] at split
      exact absurd (split ▸ List.infix_rfl) plain
    · rw [all] at split
      exact List.append_left_eq_self.mp split

theorem exists_pieces (text : List Char) : ∃ pieces, Pieces text pieces := by
  induction text using text_induction with
  | nil => exact ⟨[[]], by simp, by simp, by simp [placeholder_eq]⟩
  | hole rest ih =>
    obtain ⟨_ | ⟨first, others⟩, cut⟩ := ih
    · exact absurd rfl cut.nonempty
    · have joined := cut.joined
      rw [Text.intercalate_first] at joined
      refine ⟨[] :: first :: others, List.cons_ne_nil _ _, ?_,
        List.forall_mem_cons.mpr ⟨by simp [placeholder_eq], cut.plain⟩⟩
      rw [Text.intercalate_first, List.flatMap_cons, List.append_assoc, joined,
        List.nil_append]
  | plain c rest free ih =>
    obtain ⟨_ | ⟨first, others⟩, cut⟩ := ih
    · exact absurd rfl cut.nonempty
    · obtain ⟨clear, later⟩ := List.forall_mem_cons.mp cut.plain
      have joined := cut.joined
      rw [Text.intercalate_first] at joined
      refine ⟨(c :: first) :: others, List.cons_ne_nil _ _, ?_,
        List.forall_mem_cons.mpr ⟨fun inside => ?_, later⟩⟩
      · rw [Text.intercalate_first, List.cons_append, joined]
      · rcases List.infix_cons_iff.mp inside with here | behind
        · exact free (here.trans ⟨_, by rw [List.cons_append, joined]⟩)
        · exact clear behind

theorem eq_of_append_placeholder {other tail : List Char} (plain : ¬ placeholder <:+: front)
    (clear : ¬ placeholder <:+: other)
    (same : front ++ (placeholder ++ rest) = other ++ (placeholder ++ tail)) :
    front = other ∧ rest = tail := by
  rcases List.append_eq_append_iff.mp same with ⟨more, rfl, behind⟩ | ⟨more, rfl, behind⟩
  · obtain rfl := eq_nil_of_prefix_placeholder
      (fun inside => clear (inside.trans (List.suffix_append _ _).isInfix))
      (behind ▸ List.prefix_append _ _)
    exact ⟨(List.append_nil _).symm, List.append_cancel_left behind⟩
  · obtain rfl := eq_nil_of_prefix_placeholder
      (fun inside => plain (inside.trans (List.suffix_append _ _).isInfix))
      (behind ▸ List.prefix_append _ _)
    exact ⟨List.append_nil _, (List.append_cancel_left behind).symm⟩

theorem Pieces.unique {others : List (List Char)} (cut : Pieces text pieces)
    (again : Pieces text others) : pieces = others := by
  induction pieces generalizing text others with
  | nil => exact absurd rfl cut.nonempty
  | cons piece pieces ih =>
    obtain ⟨_, joined, plain⟩ := cut
    obtain ⟨some, same, clear⟩ := again
    obtain ⟨other, others, rfl⟩ := List.exists_cons_of_ne_nil some
    obtain ⟨here, later⟩ := List.forall_mem_cons.mp plain
    obtain ⟨there, behind⟩ := List.forall_mem_cons.mp clear
    rw [← same] at joined
    cases pieces with
    | nil =>
      cases others with
      | nil => simpa using joined
      | cons next more =>
        refine absurd ?_ here
        rw [List.intercalate_singleton, List.intercalate_cons_cons] at joined
        rw [joined, List.append_assoc]
        exact List.infix_append' _ _ _
    | cons next more =>
      cases others with
      | nil =>
        refine absurd ?_ there
        rw [List.intercalate_singleton, List.intercalate_cons_cons] at joined
        rw [← joined, List.append_assoc]
        exact List.infix_append' _ _ _
      | cons next' more' =>
        rw [List.intercalate_cons_cons, List.intercalate_cons_cons, List.append_assoc,
          List.append_assoc] at joined
        obtain ⟨rfl, tails⟩ := eq_of_append_placeholder here there joined
        rw [ih ⟨List.cons_ne_nil _ _, tails, later⟩ ⟨List.cons_ne_nil _ _, rfl, behind⟩]

/-! ### Pieces that are put together -/

/-- Some piece ends with the beginning of a placeholder, and those behind it go on with the rest. -/
def Rejoins (pieces : List (List Char)) : Prop :=
  ∃ before piece behind, pieces = before ++ piece :: behind ∧
    ∃ head tail, placeholder = head ++ tail ∧ head ≠ [] ∧ tail ≠ [] ∧
      head <:+ piece ∧ tail <+: behind.flatten

theorem infix_flatten_iff (plain : ∀ piece ∈ pieces, ¬ placeholder <:+: piece) :
    placeholder <:+: pieces.flatten ↔ Rejoins pieces := by
  constructor
  · intro inside
    induction pieces with
    | nil => simp [placeholder_eq] at inside
    | cons piece rest ih =>
      obtain ⟨here, later⟩ := List.forall_mem_cons.mp plain
      rw [List.flatten_cons, List.infix_append_iff] at inside
      have further (inner : placeholder <:+: rest.flatten) : Rejoins (piece :: rest) := by
        obtain ⟨before, part, behind, split, parts⟩ := ih later inner
        exact ⟨piece :: before, part, behind, by rw [split, List.cons_append], parts⟩
      rcases inside with first | behind | ⟨head, tail, parts, ends, begins⟩
      · exact absurd first here
      · exact further behind
      · by_cases all : head = []
        · rw [all, List.nil_append] at parts
          exact further (parts ▸ begins.isInfix)
        · by_cases none : tail = []
          · rw [none, List.append_nil] at parts
            exact absurd (parts ▸ ends.isInfix) here
          · exact ⟨[], piece, rest, rfl, head, tail, parts, all, none, ends, begins⟩
  · rintro ⟨before, piece, behind, rfl, head, tail, parts, _, _, ⟨front, rfl⟩, ⟨back, more⟩⟩
    exact ⟨before.flatten ++ front, back, by simp [parts, ← more]⟩

end

end FileName

end MockData
