import MockData.Text.Basic

/-!
# Splitting and joining

`flatMap_split` puts the parts of a text together again, each behind a separator; so a text is known
from its parts. `split_append` splits at a separator that is given, and `split_intercalate` splits
what was put together from parts. Parts that have an end of their own are known from what they are
put together to without regard to the separator: `intercalate_stopped_inj`.
-/

namespace MockData

namespace Text

theorem split_cons (separator c : Char) (rest : List Char) (different : c ≠ separator) :
    ∃ part parts, split separator rest = part :: parts ∧
      split separator (c :: rest) = (c :: part) :: parts := by
  obtain ⟨part, parts, same⟩ := List.exists_cons_of_ne_nil (split_ne_nil separator rest)
  exact ⟨part, parts, same, by simp [split, different, same]⟩

theorem flatMap_split (separator : Char) (text : List Char) :
    (split separator text).flatMap (separator :: ·) = separator :: text := by
  induction text with
  | nil => simp [split]
  | cons c rest ih =>
    by_cases here : c = separator
    · simp [split, here, ih]
    · obtain ⟨part, parts, same, whole⟩ := split_cons separator c rest here
      rw [same, List.flatMap_cons, List.cons_append] at ih
      rw [whole, List.flatMap_cons, List.cons_append, List.cons_append, (List.cons.inj ih).2]

theorem length_split (separator : Char) (text : List Char) :
    (split separator text).length = text.count separator + 1 := by
  induction text with
  | nil => rfl
  | cons c rest ih =>
    by_cases here : c = separator
    · simp [split, here, ih]
    · obtain ⟨part, parts, same, whole⟩ := split_cons separator c rest here
      rw [whole, List.count_cons_of_ne here, ← ih, same]
      rfl

theorem split_injective (separator : Char) {text other : List Char}
    (same : split separator text = split separator other) : text = other := by
  have joined := congrArg (List.flatMap (separator :: ·)) same
  rw [flatMap_split, flatMap_split] at joined
  exact (List.cons.inj joined).2

theorem split_append (separator : Char) (front back : List Char) :
    split separator (front ++ separator :: back) =
      split separator front ++ split separator back := by
  induction front with
  | nil => simp [split]
  | cons c rest ih =>
    by_cases here : c = separator
    · simp [split, here, ih]
    · obtain ⟨part, parts, same, whole⟩ := split_cons separator c rest here
      obtain ⟨_, _, longer, joined⟩ := split_cons separator c (rest ++ separator :: back) here
      rw [ih, same, List.cons_append] at longer
      rw [List.cons_append, joined, whole, ← (List.cons.inj longer).1, ← (List.cons.inj longer).2]
      rfl

theorem prefix_of_split {separator : Char} {text part : List Char} {parts : List (List Char)}
    (first : split separator text = part :: parts) : part <+: text := by
  have joined := flatMap_split separator text
  rw [first, List.flatMap_cons, List.cons_append] at joined
  exact ⟨_, (List.cons.inj joined).2⟩

/-- What has no separator goes to the first part. -/
theorem split_append_of_not_mem {separator : Char} {front back part : List Char}
    {parts : List (List Char)} (absent : separator ∉ front)
    (first : split separator back = part :: parts) :
    split separator (front ++ back) = (front ++ part) :: parts := by
  induction front with
  | nil => exact first
  | cons c rest ih =>
    rw [List.mem_cons, not_or] at absent
    obtain ⟨_, _, same, whole⟩ := split_cons separator c (rest ++ back) (Ne.symm absent.1)
    rw [ih absent.2] at same
    obtain ⟨rfl, rfl⟩ := List.cons.inj same
    exact whole

theorem not_mem_of_mem_split {separator : Char} {text part : List Char}
    (member : part ∈ split separator text) : separator ∉ part := by
  induction text generalizing part with
  | nil => simp_all [split]
  | cons c rest ih =>
    by_cases here : c = separator
    · rw [split, if_pos here, List.mem_cons] at member
      rcases member with rfl | later
      · exact List.not_mem_nil
      · exact ih later
    · obtain ⟨first, parts, same, whole⟩ := split_cons separator c rest here
      rw [whole, List.mem_cons] at member
      rw [same] at ih
      rcases member with rfl | later
      · rw [List.mem_cons, not_or]
        exact ⟨Ne.symm here, ih List.mem_cons_self⟩
      · exact ih (List.mem_cons_of_mem _ later)

theorem split_of_not_mem {separator : Char} {text : List Char} (absent : separator ∉ text) :
    split separator text = [text] := by
  induction text with
  | nil => rfl
  | cons c rest ih =>
    rw [List.mem_cons, not_or] at absent
    obtain ⟨part, parts, same, whole⟩ := split_cons separator c rest (Ne.symm absent.1)
    rw [ih absent.2] at same
    obtain ⟨rfl, rfl⟩ := List.cons.inj same
    exact whole

theorem split_intercalate {separator : Char} {parts : List (List Char)} (some : parts ≠ [])
    (absent : ∀ part ∈ parts, separator ∉ part) :
    split separator ([separator].intercalate parts) = parts := by
  induction parts with
  | nil => exact absurd rfl some
  | cons first rest ih =>
    have alone := split_of_not_mem (absent first List.mem_cons_self)
    cases rest with
    | nil => simpa [List.intercalate] using alone
    | cons next others =>
      rw [List.intercalate_cons_cons, List.append_assoc, List.singleton_append, split_append, alone,
        ih (List.cons_ne_nil next others) fun part member => absent part (.tail _ member)]
      rfl

/-! ### Parts with an end -/

theorem eq_of_append_stop {stop : Char} {front other back tail : List Char}
    (absent : stop ∉ front) (lacks : stop ∉ other)
    (same : front ++ stop :: back = other ++ stop :: tail) : front = other ∧ back = tail := by
  have parts := congrArg (split stop) same
  rw [split_append, split_append, split_of_not_mem absent, split_of_not_mem lacks] at parts
  obtain ⟨here, behind⟩ := List.cons.inj parts
  exact ⟨here, split_injective stop behind⟩

theorem intercalate_first (separator first : List Char) (rest : List (List Char)) :
    separator.intercalate (first :: rest) = first ++ rest.flatMap (separator ++ ·) := by
  induction rest generalizing first with
  | nil => simp
  | cons next others ih => simp [List.intercalate_cons_cons, ih]

theorem intercalate_cons (separator : Char) (first : List Char) (rest : List (List Char)) :
    [separator].intercalate (first :: rest) = first ++ rest.flatMap (separator :: ·) :=
  intercalate_first [separator] first rest

theorem mem_intercalate {separator c : Char} {parts : List (List Char)}
    (member : c ∈ [separator].intercalate parts) : c = separator ∨ ∃ part ∈ parts, c ∈ part := by
  cases parts with
  | nil => exact nomatch member
  | cons first rest =>
    rw [intercalate_cons, List.mem_append, List.mem_flatMap] at member
    rcases member with here | ⟨part, later, found⟩
    · exact .inr ⟨first, List.mem_cons_self, here⟩
    · rcases List.mem_cons.mp found with rfl | inside
      · exact .inl rfl
      · exact .inr ⟨part, List.mem_cons_of_mem _ later, inside⟩

/-- The part ends at the only `stop` in it. -/
def Stopped (stop : Char) (part : List Char) : Prop := ∃ body, stop ∉ body ∧ part = body ++ [stop]

theorem Stopped.count {stop : Char} {part : List Char} (stopped : Stopped stop part) :
    part.count stop = 1 := by
  obtain ⟨body, absent, rfl⟩ := stopped
  rw [List.count_append, List.count_eq_zero_of_not_mem absent, List.count_singleton_self]

theorem flatMap_stopped_inj {separator stop : Char} {parts others : List (List Char)}
    (stopped : ∀ part ∈ parts, Stopped stop part) (alike : ∀ part ∈ others, Stopped stop part)
    (same : parts.flatMap (separator :: ·) = others.flatMap (separator :: ·)) : parts = others := by
  induction parts generalizing others with
  | nil =>
    cases others with
    | nil => rfl
    | cons part rest => exact nomatch same
  | cons part rest ih =>
    cases others with
    | nil => exact nomatch same
    | cons other more =>
      obtain ⟨⟨body, absent, rfl⟩, later⟩ := List.forall_mem_cons.mp stopped
      obtain ⟨⟨content, lacks, rfl⟩, behind⟩ := List.forall_mem_cons.mp alike
      simp only [List.flatMap_cons, List.cons_append, List.append_assoc, List.nil_append,
        List.cons.injEq, true_and] at same
      obtain ⟨rfl, tail⟩ := eq_of_append_stop absent lacks same
      rw [ih later behind tail]

/-- Parts that end where the first `stop` is are known from what they are put together to. -/
theorem intercalate_stopped_inj {separator stop : Char} {parts others : List (List Char)}
    (stopped : ∀ part ∈ parts, Stopped stop part) (alike : ∀ part ∈ others, Stopped stop part)
    (same : [separator].intercalate parts = [separator].intercalate others) : parts = others := by
  have front {first : List Char} {rest : List (List Char)} (some : Stopped stop first) :
      [separator].intercalate (first :: rest) ≠ [] := by
    obtain ⟨body, _, rfl⟩ := some
    simp [intercalate_cons]
  cases parts with
  | nil =>
    cases others with
    | nil => rfl
    | cons part rest => exact absurd same.symm (front (alike part List.mem_cons_self))
  | cons part rest =>
    cases others with
    | nil => exact absurd same (front (stopped part List.mem_cons_self))
    | cons other more =>
      rw [intercalate_cons, intercalate_cons] at same
      have rows : (part :: rest).flatMap (separator :: ·) =
          (other :: more).flatMap (separator :: ·) := by
        simp [same]
      exact flatMap_stopped_inj stopped alike rows

theorem count_intercalate_stopped {separator stop : Char} {parts : List (List Char)}
    (different : separator ≠ stop) (stopped : ∀ part ∈ parts, Stopped stop part) :
    ([separator].intercalate parts).count stop = parts.length := by
  induction parts with
  | nil => rfl
  | cons part rest ih =>
    obtain ⟨here, later⟩ := List.forall_mem_cons.mp stopped
    cases rest with
    | nil => simp [here.count]
    | cons next others =>
      rw [List.intercalate_cons_cons, List.append_assoc, List.count_append, here.count,
        List.singleton_append, List.count_cons_of_ne different, ih later]
      simp only [List.length_cons]
      omega

end Text

end MockData
