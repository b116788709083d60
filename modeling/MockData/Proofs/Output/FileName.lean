import MockData.Output.FileName
import MockData.Proofs.Text.Characters
import MockData.Proofs.Text.Split

/-!
# The names of records are different

`fill` puts a number in the place of every placeholder. `text_induction` reads a text as characters
and placeholders, and every law of `fill` is an induction of that form: numbers can be told from the
names that hold them (`fill_injective`), and the name of a temporary file is never that of a record
(`dotted_fill_ne`).
-/

namespace MockData

namespace FileName

def numeral (index : Nat) : List Char := (padded 3 (index + 1)).toList

/-- A text with the number of a record in the place of every placeholder. -/
def fill (index : Nat) (text : List Char) : List Char :=
  replaceAll bareLength? (numeral index) 0 text

theorem toList_ofRecord (filename : String) (index : Nat) :
    (ofRecord filename index).toList = fill index filename.toList := by
  simp [ofRecord, fill, numeral]

theorem placeholder_eq : placeholder =
    ['{', '{', 'i', 'n', 'd', 'e', 'x', '}', '}'] := by
  decide

theorem hasPlaceholder_iff (text : List Char) :
    hasPlaceholder text = true ↔ placeholder <:+: text := by
  induction text with
  | nil => simp [hasPlaceholder, placeholder_eq]
  | cons c rest ih =>
    rw [hasPlaceholder, Bool.or_eq_true, List.isPrefixOf_iff_prefix, ih, List.infix_cons_iff]

theorem replaceAll_drop (find : List Char → Option Nat) (replacement : List Char) (skip : Nat)
    (text : List Char) :
    replaceAll find replacement skip text = replaceAll find replacement 0 (text.drop skip) := by
  induction skip generalizing text with
  | zero => rfl
  | succ skip ih =>
    cases text with
    | nil => simp [replaceAll]
    | cons c rest => rw [replaceAll, ih, List.drop_succ_cons]

section

variable {find : List Char → Option Nat} {replacement rest : List Char} {c : Char}

theorem replaceAll_found {length : Nat} (found : find (c :: rest) = some (length + 1)) :
    replaceAll find replacement 0 (c :: rest) =
      replacement ++ replaceAll find replacement 0 (rest.drop length) := by
  rw [replaceAll, found, ← replaceAll_drop]

theorem replaceAll_kept (absent : find (c :: rest) = none) :
    replaceAll find replacement 0 (c :: rest) = c :: replaceAll find replacement 0 rest := by
  rw [replaceAll, absent]

end

theorem fill_nil (index : Nat) : fill index [] = [] := by
  simp [fill, replaceAll]

theorem fill_placeholder (index : Nat) (rest : List Char) :
    fill index (placeholder ++ rest) = numeral index ++ fill index rest := by
  have found : bareLength? (placeholder ++ rest) = some (8 + 1) := by
    simp [bareLength?, placeholder_eq]
  rw [placeholder_eq] at found ⊢
  exact replaceAll_found found

theorem fill_cons (index : Nat) {c : Char} {rest : List Char}
    (plain : ¬ placeholder <+: c :: rest) : fill index (c :: rest) = c :: fill index rest := by
  refine replaceAll_kept ?_
  rw [bareLength?, if_neg]
  rwa [List.isPrefixOf_iff_prefix]

/-- A text is nothing, or a placeholder and a text, or a character and a text. -/
theorem text_induction {motive : List Char → Prop} (nil : motive [])
    (hole : ∀ rest, motive rest → motive (placeholder ++ rest))
    (plain : ∀ c rest, ¬ placeholder <+: c :: rest → motive rest → motive (c :: rest))
    (text : List Char) : motive text := by
  induction length : text.length using Nat.strongRecOn generalizing text with
  | ind n ih =>
    subst length
    cases text with
    | nil => exact nil
    | cons c rest =>
      by_cases here : placeholder <+: c :: rest
      · obtain ⟨behind, split⟩ := here
        rw [← split] at ih ⊢
        refine hole behind (ih _ ?_ behind rfl)
        rw [List.length_append, placeholder_eq]
        exact Nat.lt_add_of_pos_left (by decide)
      · exact plain c rest here (ih _ (Nat.lt_succ_self _) rest rfl)

section

variable {index other : Nat} {text : List Char}

theorem isDigit_of_mem_numeral {c : Char} (member : c ∈ numeral index) : c.isDigit = true :=
  isDigit_of_mem_padded member

theorem numeral_ne_nil (index : Nat) : numeral index ≠ [] := by
  simp [numeral, padded, Nat.toDigits_ne_nil]

theorem ofDigitChars_numeral (index : Nat) : Nat.ofDigitChars 10 (numeral index) 0 = index + 1 :=
  ofDigitChars_padded _ (index + 1)

theorem numeral_injective (same : numeral index = numeral other) : index = other := by
  have values := congrArg (Nat.ofDigitChars 10 · 0) same
  simp only [ofDigitChars_numeral] at values
  omega

/-- Longer numbers do not make a text shorter. -/
theorem length_fill_le (le : (numeral index).length ≤ (numeral other).length) (text : List Char) :
    (fill index text).length ≤ (fill other text).length := by
  induction text using text_induction with
  | nil => simp [fill_nil]
  | hole rest ih =>
    rw [fill_placeholder, fill_placeholder, List.length_append, List.length_append]
    omega
  | plain c rest free ih =>
    rw [fill_cons _ free, fill_cons _ free, List.length_cons, List.length_cons]
    omega

/-- A longer number would make what follows it longer as well. -/
theorem length_numeral_le {rest : List Char}
    (same : numeral index ++ fill index rest = numeral other ++ fill other rest) :
    (numeral index).length ≤ (numeral other).length := by
  refine Nat.le_of_not_lt fun longer => ?_
  have behind := length_fill_le (Nat.le_of_lt longer) rest
  have lengths := congrArg List.length same
  rw [List.length_append, List.length_append] at lengths
  omega

theorem fill_injective (holds : hasPlaceholder text = true)
    (same : fill index text = fill other text) : index = other := by
  induction text using text_induction with
  | nil => exact nomatch holds
  | hole rest ih =>
    rw [fill_placeholder, fill_placeholder] at same
    have lengths := Nat.le_antisymm (length_numeral_le same) (length_numeral_le same.symm)
    exact numeral_injective (List.append_inj_left same lengths)
  | plain c rest free ih =>
    rw [fill_cons _ free, fill_cons _ free] at same
    rw [hasPlaceholder, Bool.or_eq_true, List.isPrefixOf_iff_prefix] at holds
    exact ih (holds.resolve_left free) (List.cons.inj same).2

theorem fill_of_not_hasPlaceholder (absent : hasPlaceholder text = false) (index : Nat) :
    fill index text = text := by
  induction text using text_induction with
  | nil => exact fill_nil index
  | hole rest ih =>
    have here : hasPlaceholder (placeholder ++ rest) = true := by
      simp [placeholder_eq, hasPlaceholder]
    rw [here] at absent
    exact nomatch absent
  | plain c rest free ih =>
    rw [hasPlaceholder, Bool.or_eq_false_iff] at absent
    rw [fill_cons _ free, ih absent.2]

/-- A text that is changed holds a digit afterwards. -/
theorem fill_eq_or_digit (index : Nat) (text : List Char) :
    fill index text = text ∨ ∃ c ∈ fill index text, c.isDigit = true := by
  induction text using text_induction with
  | nil => exact .inl (fill_nil index)
  | hole rest ih =>
    obtain ⟨c, digits, number⟩ := List.exists_cons_of_ne_nil (numeral_ne_nil index)
    have member : c ∈ numeral index := by simp [number]
    rw [fill_placeholder]
    exact .inr ⟨c, List.mem_append_left _ member, isDigit_of_mem_numeral member⟩
  | plain c rest free ih =>
    rw [fill_cons _ free]
    rcases ih with same | ⟨d, member, digit⟩
    · exact .inl (by rw [same])
    · exact .inr ⟨d, List.mem_cons_of_mem _ member, digit⟩

/-- With a dot in front no name of a record is that of another. The dot would have to move on to the
first number. -/
theorem dotted_fill_ne (text ending : List Char) :
    '.' :: (fill index text ++ ending) ≠ fill other text := by
  induction text using text_induction with
  | nil => simp [fill_nil]
  | hole rest ih =>
    obtain ⟨c, digits, number⟩ := List.exists_cons_of_ne_nil (numeral_ne_nil other)
    have member : c ∈ numeral other := by simp [number]
    have digit := isDigit_of_mem_numeral member
    rw [fill_placeholder other, number]
    intro same
    rw [← (List.cons.inj same).1] at digit
    exact nomatch digit
  | plain c rest free ih =>
    rw [fill_cons _ free, fill_cons _ free]
    intro same
    obtain ⟨rfl, behind⟩ := List.cons.inj same
    exact ih behind

/-- Slashes stay where they are, and none are added. -/
theorem split_fill (index : Nat) (text : List Char) :
    Text.split '/' (fill index text) = (Text.split '/' text).map (fill index) := by
  induction text using text_induction with
  | nil => simp [fill_nil, Text.split]
  | hole rest ih =>
    obtain ⟨part, parts, same⟩ := List.exists_cons_of_ne_nil (Text.split_ne_nil '/' rest)
    have digits : '/' ∉ numeral index := fun member =>
      absurd (isDigit_of_mem_numeral member) (by decide)
    have clear : '/' ∉ placeholder := by decide
    rw [same, List.map_cons] at ih
    rw [fill_placeholder, Text.split_append_of_not_mem digits ih,
      Text.split_append_of_not_mem clear same, List.map_cons, fill_placeholder]
  | plain c rest free ih =>
    rw [fill_cons _ free]
    by_cases slash : c = '/'
    · simp [Text.split, slash, ih, fill_nil]
    · obtain ⟨part, parts, same, whole⟩ := Text.split_cons '/' c rest slash
      obtain ⟨_, _, filled, joined⟩ := Text.split_cons '/' c (fill index rest) slash
      have inner : ¬ placeholder <+: c :: part := fun le =>
        free (le.trans (List.cons_prefix_cons.mpr ⟨rfl, Text.prefix_of_split same⟩))
      rw [ih, same, List.map_cons] at filled
      obtain ⟨rfl, rfl⟩ := List.cons.inj filled
      rw [joined, whole, List.map_cons, fill_cons _ inner]

end

end FileName

end MockData
