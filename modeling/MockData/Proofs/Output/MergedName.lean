import Mathlib.Logic.Function.Iterate
import MockData.Proofs.Output.Pieces

/-!
# The name of the file of all records

Removing placeholders from left to right, each with a separator on either side, is the same as
cutting the text at all placeholders and trimming each piece where it was cut
(`strip_intercalate`, `merged_of_pieces`). One removal can bring the text around it together to a
placeholder, as `merged_rejoined` shows. When it does is `merged_clean_iff`, and that removing again
and again comes to an end.
-/

namespace MockData

namespace FileName

def trimStart : List Char → List Char
  | [] => []
  | c :: rest => if isSeparator c then rest else c :: rest

def trimEnd : List Char → List Char
  | [] => []
  | [c] => if isSeparator c then [] else [c]
  | c :: d :: rest => c :: trimEnd (d :: rest)

def trimStarts : List (List Char) → List (List Char)
  | [] => []
  | first :: rest => first :: rest.map trimStart

def trimEnds : List (List Char) → List (List Char)
  | [] => []
  | [last] => [last]
  | piece :: next :: rest => trimEnd piece :: trimEnds (next :: rest)

/-- What is kept of the pieces: one separator goes from each end that was cut, first from the starts
and then from what is left at the ends. -/
def trimmed (pieces : List (List Char)) : List (List Char) := trimEnds (trimStarts pieces)

def strip (text : List Char) : List Char := replaceAll separatedLength? [] 0 text

section

variable {text piece rest : List Char} {pieces : List (List Char)}

/-! ### Removing -/

theorem strip_cons {c : Char} (free : ¬ placeholder <+: c :: rest)
    (behind : isSeparator c → ¬ placeholder <+: rest) : strip (c :: rest) = c :: strip rest := by
  have bare : (isSeparator c && placeholder.isPrefixOf rest) = false := by
    rw [Bool.and_eq_false_imp]
    intro separator
    rw [← Bool.not_eq_true, List.isPrefixOf_iff_prefix]
    exact behind separator
  rw [← List.isPrefixOf_iff_prefix, Bool.not_eq_true] at free
  exact replaceAll_kept (by simp [separatedLength?, bare, free])

theorem strip_of_found {length : Nat} (found : separatedLength? text = some (length + 1)) :
    strip text = strip (text.drop (length + 1)) := by
  cases text with
  | nil => exact nomatch found
  | cons c rest => exact replaceAll_found found

/-- How many separators go with the placeholder in front of a text. -/
def separators (rest : List Char) : Nat := if rest.head?.any isSeparator then 1 else 0

theorem drop_separators (rest : List Char) : rest.drop (separators rest) = trimStart rest := by
  cases rest with
  | nil => rfl
  | cons c rest => by_cases separator : isSeparator c <;> simp [separators, trimStart, separator]

theorem strip_placeholder (rest : List Char) :
    strip (placeholder ++ rest) = strip (trimStart rest) := by
  have found : separatedLength? (placeholder ++ rest) = some (8 + separators rest + 1) := by
    simp [separatedLength?, placeholder_eq, isSeparator, separators]
    omega
  have length : 8 + separators rest + 1 = placeholder.length + separators rest := by
    rw [placeholder_eq]
    exact Nat.add_right_comm 8 _ 1
  rw [strip_of_found found, length, List.drop_length_add_append, drop_separators]

theorem strip_separator {c : Char} (separator : isSeparator c) (rest : List Char) :
    strip (c :: (placeholder ++ rest)) = strip (trimStart rest) := by
  have found : separatedLength? (c :: (placeholder ++ rest)) = some (9 + separators rest + 1) := by
    simp [separatedLength?, placeholder_eq, separator, separators]
    omega
  have length : 9 + separators rest + 1 = placeholder.length + separators rest + 1 := by
    rw [placeholder_eq]
    rfl
  rw [strip_of_found found, length, List.drop_succ_cons, List.drop_length_add_append,
    drop_separators]

theorem strip_of_plain (plain : ¬ placeholder <:+: text) : strip text = text := by
  induction text with
  | nil => rfl
  | cons c rest ih =>
    rw [List.infix_cons_iff, not_or] at plain
    rw [strip_cons plain.1 fun _ here => plain.2 here.isInfix, ih plain.2]

/-- Up to the first placeholder nothing is removed but a separator in front of it. -/
theorem strip_append (plain : ¬ placeholder <:+: piece) (rest : List Char) :
    strip (piece ++ (placeholder ++ rest)) = trimEnd piece ++ strip (trimStart rest) := by
  induction piece with
  | nil => exact strip_placeholder rest
  | cons c piece ih =>
    have free : ¬ placeholder <+: c :: (piece ++ (placeholder ++ rest)) := fun here =>
      nomatch eq_nil_of_prefix_placeholder plain here
    have clear : ¬ placeholder <:+: piece := mt List.infix_cons plain
    have next (le : placeholder <+: piece ++ (placeholder ++ rest)) : piece = [] :=
      eq_nil_of_prefix_placeholder clear le
    cases piece with
    | nil =>
      by_cases separator : isSeparator c
      · simpa [trimEnd, separator] using strip_separator separator rest
      · have kept := strip_cons free fun sep => absurd sep separator
        rw [List.cons_append, kept, ih clear]
        simp [trimEnd, separator]
    | cons d more =>
      have kept := strip_cons free fun _ le => nomatch next le
      rw [List.cons_append, kept, ih clear]
      rfl

theorem suffix_trimStart (text : List Char) : trimStart text <:+ text := by
  cases text with
  | nil => exact List.suffix_rfl
  | cons c rest =>
    rw [trimStart]
    split
    · exact List.suffix_cons c rest
    · exact List.suffix_rfl

theorem trimStart_intercalate (piece : List Char) (pieces : List (List Char)) :
    trimStart (placeholder.intercalate (piece :: pieces)) =
      placeholder.intercalate (trimStart piece :: pieces) := by
  rw [Text.intercalate_first, Text.intercalate_first]
  cases piece with
  | nil => cases pieces <;> simp [trimStart, placeholder_eq, isSeparator]
  | cons c rest => by_cases separator : isSeparator c <;> simp [trimStart, separator]

/-- What is left of a text are its pieces, each trimmed where it was cut. -/
theorem strip_intercalate (plain : ∀ part ∈ piece :: pieces, ¬ placeholder <:+: part) :
    strip (placeholder.intercalate (piece :: pieces)) = (trimmed (piece :: pieces)).flatten := by
  induction pieces generalizing piece with
  | nil =>
    rw [List.intercalate_singleton, strip_of_plain (plain piece List.mem_cons_self)]
    exact (List.append_nil piece).symm
  | cons next rest ih =>
    obtain ⟨here, clear, later⟩ : _ ∧ _ ∧ _ := by simpa only [List.forall_mem_cons] using plain
    have trimmed_clear : ¬ placeholder <:+: trimStart next := fun inside =>
      clear (inside.trans (suffix_trimStart next).isInfix)
    rw [List.intercalate_cons_cons, List.append_assoc, strip_append here, trimStart_intercalate,
      ih (List.forall_mem_cons.mpr ⟨trimmed_clear, later⟩)]
    rfl

theorem Pieces.strip_eq (cut : Pieces text pieces) : strip text = (trimmed pieces).flatten := by
  obtain ⟨piece, others, rfl⟩ := List.exists_cons_of_ne_nil cut.nonempty
  rw [← cut.joined, strip_intercalate cut.plain]

theorem prefix_trimEnd (text : List Char) : trimEnd text <+: text := by
  fun_induction trimEnd text with
  | case1 => exact List.prefix_rfl
  | case2 c separator => exact List.nil_prefix
  | case3 c plain => exact List.prefix_rfl
  | case4 c d rest ih => exact List.cons_prefix_cons.mpr ⟨rfl, ih⟩

/-- Trimming adds nothing. -/
theorem trimmed_sublist (pieces : List (List Char)) :
    (trimmed pieces).flatten.Sublist pieces.flatten := by
  have starts (pieces : List (List Char)) :
      (pieces.map trimStart).flatten.Sublist pieces.flatten := by
    induction pieces with
    | nil => exact List.Sublist.refl _
    | cons piece rest ih => exact (suffix_trimStart piece).sublist.append ih
  have ends (pieces : List (List Char)) : (trimEnds pieces).flatten.Sublist pieces.flatten := by
    fun_induction trimEnds pieces with
    | case1 => exact List.Sublist.refl _
    | case2 last => exact List.Sublist.refl _
    | case3 piece next rest ih => exact (prefix_trimEnd piece).sublist.append ih
  refine (ends (trimStarts pieces)).trans ?_
  cases pieces with
  | nil => exact List.Sublist.refl _
  | cons first rest => exact (List.Sublist.refl first).append (starts rest)

/-- A piece that is trimmed lies in the piece that it was. -/
theorem mem_trimmed {part : List Char} (member : part ∈ trimmed pieces) :
    ∃ piece ∈ pieces, part <:+: piece := by
  have starts : ∀ part ∈ trimStarts pieces, ∃ piece ∈ pieces, part <:+: piece := by
    cases pieces with
    | nil => exact List.forall_mem_nil _
    | cons first rest =>
      refine List.forall_mem_cons.mpr ⟨⟨first, List.mem_cons_self, List.infix_rfl⟩, ?_⟩
      intro part member
      obtain ⟨piece, inside, rfl⟩ := List.mem_map.mp member
      exact ⟨piece, List.mem_cons_of_mem _ inside, (suffix_trimStart piece).isInfix⟩
  have ends (started : List (List Char)) :
      ∀ part ∈ trimEnds started, ∃ piece ∈ started, part <:+: piece := by
    fun_induction trimEnds started with
    | case1 => exact List.forall_mem_nil _
    | case2 last => simp
    | case3 piece next rest ih =>
      refine List.forall_mem_cons.mpr
        ⟨⟨piece, List.mem_cons_self, (prefix_trimEnd piece).isInfix⟩, fun part member => ?_⟩
      obtain ⟨other, inside, within⟩ := ih part member
      exact ⟨other, List.mem_cons_of_mem _ inside, within⟩
  obtain ⟨started, inside, le⟩ := ends _ part member
  obtain ⟨piece, source, within⟩ := starts started inside
  exact ⟨piece, source, le.trans within⟩

theorem length_intercalate (piece : List Char) (pieces : List (List Char)) :
    (placeholder.intercalate (piece :: pieces)).length =
      (piece :: pieces).flatten.length + 9 * pieces.length := by
  have size : placeholder.length = 9 := by decide
  induction pieces generalizing piece with
  | nil => simp
  | cons next rest ih =>
    rw [List.intercalate_cons_cons, List.length_append, List.length_append, size, ih,
      List.flatten_cons (l := piece), List.length_append, List.length_cons]
    omega

/-- Where there is a placeholder the text gets shorter by its length at least. -/
theorem length_strip (holds : placeholder <:+: text) : (strip text).length + 9 ≤ text.length := by
  obtain ⟨pieces, cut⟩ := exists_pieces text
  have kept := (trimmed_sublist pieces).length_le
  rw [cut.strip_eq]
  match pieces, cut with
  | [], cut => exact absurd rfl cut.nonempty
  | [piece], cut =>
    have same : piece = text := List.intercalate_singleton.symm.trans cut.joined
    exact absurd (same ▸ holds) (cut.plain piece List.mem_cons_self)
  | piece :: next :: rest, cut =>
    have lengths := length_intercalate piece (next :: rest)
    rw [cut.joined, List.length_cons] at lengths
    omega

/-! ### The name -/

theorem merged_eq (filename : String) : merged filename =
    if cleaned filename = "" ∨ cleaned filename = ".json" then "output.json"
    else cleaned filename := by
  simp [merged, fallback]

theorem merged_of_plain {filename : String} (plain : ¬ placeholder <:+: filename.toList)
    (some : filename ≠ "") (named : filename ≠ ".json") : merged filename = filename := by
  have same : cleaned filename = filename := by
    rw [cleaned, ← strip, strip_of_plain plain, String.ofList_toList]
  rw [merged_eq, same, if_neg (not_or.mpr ⟨some, named⟩)]

/-- The name is what is left of the pieces when one separator has been taken from every end that
was cut, and a name of its own if nothing is left but an extension. -/
theorem merged_of_pieces (filename : String) :
    (∃! pieces, Pieces filename.toList pieces) ∧
    (∀ pieces, Pieces filename.toList pieces →
      let name := String.ofList (trimmed pieces).flatten
      merged filename = if name = "" ∨ name = ".json" then "output.json" else name) ∧
    (¬ placeholder <:+: filename.toList → filename ≠ "" → filename ≠ ".json" →
      merged filename = filename) := by
  refine ⟨?_, fun pieces cut => ?_, merged_of_plain⟩
  · obtain ⟨pieces, cut⟩ := exists_pieces filename.toList
    exact ⟨pieces, cut, fun others again => again.unique cut⟩
  · have name : cleaned filename = String.ofList (trimmed pieces).flatten := by
      rw [cleaned, ← strip, cut.strip_eq]
    rw [merged_eq, name]

theorem merged_of_pieces_shared :
    let filename := "a-{{index}}-{{index}}__.json"
    Pieces filename.toList [['a', '-'], ['-'], "__.json".toList] ∧ merged filename = "a_.json" ∧
      ¬ placeholder <:+: "-.json".toList ∧ merged "-.json" = "-.json" := by
  intro filename
  have cut : Pieces filename.toList [['a', '-'], ['-'], "__.json".toList] :=
    ⟨by decide, by decide, by decide⟩
  have plain : ¬ placeholder <:+: "-.json".toList := by decide
  refine ⟨cut, ?_, plain, (merged_of_pieces "-.json").2.2 plain (by decide) (by decide)⟩
  exact ((merged_of_pieces filename).2.1 _ cut).trans (by decide)

/-! ### What one removal leaves -/

variable {filename : String}

theorem merged_ne (filename : String) : merged filename ≠ "" ∧ merged filename ≠ ".json" := by
  rw [merged_eq]
  split
  · decide
  · rename_i kept
    exact not_or.mp kept

theorem infix_merged_iff (filename : String) :
    placeholder <:+: (merged filename).toList ↔ placeholder <:+: strip filename.toList := by
  have left : (cleaned filename).toList = strip filename.toList := String.toList_ofList
  rw [← left, merged_eq]
  split
  · rename_i gone
    rcases gone with none | extension
    · rw [none]
      decide
    · rw [extension]
      decide
  · exact Iff.rfl

/-- A name that holds a placeholder is cut by the next removal. -/
theorem length_merged (holds : placeholder <:+: filename.toList)
    (again : placeholder <:+: (merged filename).toList) :
    (merged filename).toList.length + 9 ≤ filename.toList.length := by
  rw [merged_eq] at again ⊢
  split at again
  · exact absurd again (by decide)
  · rename_i kept
    rw [if_neg kept, cleaned, ← strip, String.toList_ofList]
    exact length_strip holds

theorem merged_merged_iff (filename : String) :
    merged (merged filename) = merged filename ↔ ¬ placeholder <:+: (merged filename).toList := by
  constructor
  · intro same inside
    have shorter := length_merged inside (by rwa [same])
    rw [same] at shorter
    omega
  · intro plain
    exact merged_of_plain plain (merged_ne filename).1 (merged_ne filename).2

/-- Each removal that leaves a placeholder makes the name shorter by the length of one. -/
theorem exists_settled (filename : String) : ∃ passes, 9 * passes ≤ filename.toList.length ∧
    ¬ placeholder <:+: (merged^[passes + 1] filename).toList := by
  induction length : filename.toList.length using Nat.strongRecOn generalizing filename with
  | ind n ih =>
    subst length
    by_cases again : placeholder <:+: (merged filename).toList
    · have holds : placeholder <:+: filename.toList := by
        refine Decidable.byContradiction fun plain => ?_
        rw [infix_merged_iff, strip_of_plain plain] at again
        exact plain again
      have shorter := length_merged holds again
      obtain ⟨passes, few, settled⟩ := ih _ (by omega) (merged filename) rfl
      exact ⟨passes + 1, by omega, settled⟩
    · exact ⟨0, by omega, again⟩

/-- The name holds a placeholder if and only if the trimmed pieces come together to one, and only
then is it changed when placeholders are removed again. That needs both braces outside placeholders,
and it ends after as many passes as there is room for. -/
theorem merged_clean_iff (cut : Pieces filename.toList pieces) :
    (placeholder <:+: (merged filename).toList ↔ Rejoins (trimmed pieces)) ∧
    (merged (merged filename) = merged filename ↔ ¬ Rejoins (trimmed pieces)) ∧
    ('{' ∉ pieces.flatten ∨ '}' ∉ pieces.flatten → ¬ Rejoins (trimmed pieces)) ∧
    ∃ passes, 9 * passes ≤ filename.toList.length ∧
      let name := merged^[passes + 1] filename
      ¬ placeholder <:+: name.toList ∧ merged name = name := by
  have clear : ∀ part ∈ trimmed pieces, ¬ placeholder <:+: part := by
    intro part member inside
    obtain ⟨piece, source, within⟩ := mem_trimmed member
    exact cut.plain piece source (inside.trans within)
  have rejoined : placeholder <:+: (merged filename).toList ↔ Rejoins (trimmed pieces) := by
    rw [infix_merged_iff, cut.strip_eq, infix_flatten_iff clear]
  refine ⟨rejoined, (merged_merged_iff filename).trans (not_congr rejoined), ?_, ?_⟩
  · rintro bare inside
    have whole := (infix_flatten_iff clear).mpr inside
    have outside {c : Char} (brace : c ∈ placeholder) : c ∈ pieces.flatten :=
      (trimmed_sublist pieces).subset (whole.subset brace)
    rcases bare with opening | closing
    · exact opening (outside (by decide))
    · exact closing (outside (by decide))
  · obtain ⟨passes, few, settled⟩ := exists_settled filename
    refine ⟨passes, few, settled, ?_⟩
    rw [Function.iterate_succ_apply'] at settled ⊢
    exact (merged_merged_iff _).mpr settled

theorem merged_clean_iff_nested :
    let filename := "{{in_{{index}}dex}}"
    let opening := ['{', '{', 'i', 'n', '_']
    let closing := ['d', 'e', 'x', '}', '}']
    let plain := "a-{{index}}.json"
    Pieces filename.toList [opening, closing] ∧
      placeholder <:+: (merged filename).toList ∧ merged (merged filename) ≠ merged filename ∧
      Pieces plain.toList ["a-".toList, ".json".toList] ∧
      '{' ∉ ["a-".toList, ".json".toList].flatten ∧
      ¬ placeholder <:+: (merged plain).toList ∧ merged (merged plain) = merged plain := by
  intro filename opening closing plain
  have cut : Pieces filename.toList [opening, closing] := ⟨by decide, by decide, by decide⟩
  have rejoins : Rejoins (trimmed [opening, closing]) :=
    ⟨[], opening.dropLast, [closing], by decide, opening.dropLast, closing,
      by decide, by decide, by decide, by decide, by decide⟩
  have apart : Pieces plain.toList ["a-".toList, ".json".toList] :=
    ⟨by decide, by decide, by decide⟩
  have bare : '{' ∉ ["a-".toList, ".json".toList].flatten := by decide
  obtain ⟨holds, changes, _⟩ := merged_clean_iff cut
  obtain ⟨free, stays, only, _⟩ := merged_clean_iff apart
  have none := only (.inl bare)
  exact ⟨cut, holds.mpr rejoins, fun same => changes.mp same rejoins, apart, bare,
    mt free.mp none, stays.mpr none⟩

/-- The text around a placeholder can be one as well, which is then left. -/
theorem merged_rejoined :
    let filename := "{{in{{index}}dex}}"
    placeholder <:+: (merged filename).toList ∧ merged (merged filename) ≠ merged filename := by
  decide +kernel

end

end FileName

end MockData
