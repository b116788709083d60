import MockData.Proofs.Output.FileName
import MockData.Proofs.Storage.Replacement
import MockData.Output.Writer

/-!
# The files of records do not meet

Where the name of a document has a placeholder and no step up, the files of its records lie at the
same depth of the same directory, and so do their temporary files. So they are all different, and no
temporary file lies on the way to a record.
-/

namespace MockData

namespace Output

open FileName

def parts (filename : String) : List (List Char) :=
  (Text.split '/' filename.toList).filter fun part => part ≠ [] ∧ part ≠ ['.']

def names (filename : String) (index : Nat) : List String :=
  (parts filename).map fun part => String.ofList (fill index part)

/-- No part of a name goes up. -/
def StaysBelow (filename : String) : Prop := .up ∉ (Path.mk filename).steps

theorem stepOf_fill {part : List Char} (full : part ≠ []) (one : part ≠ ['.'])
    (two : part ≠ ['.', '.']) (index : Nat) :
    Path.stepOf (fill index part) = some (.into (String.ofList (fill index part))) := by
  rcases fill_eq_or_digit index part with same | ⟨c, member, digit⟩
  · rw [same]
    simp [Path.stepOf, full, one, two]
  · have dots (text : List Char) (all : ∀ d ∈ text, d = '.') : fill index part ≠ text := by
      rintro rfl
      rw [all c member] at digit
      exact absurd digit (by decide)
    simp [Path.stepOf, dots [], dots ['.'], dots ['.', '.']]

theorem moves_fill (index : Nat) {pieces : List (List Char)} (below : ['.', '.'] ∉ pieces) :
    ((pieces.map (fill index)).filterMap Path.stepOf).filter (fun step => step ≠ .here) =
      (((pieces.filter fun part => part ≠ [] ∧ part ≠ ['.']).map fun part =>
        String.ofList (fill index part)).map .into) := by
  induction pieces with
  | nil => rfl
  | cons part rest ih =>
    rw [List.mem_cons, not_or] at below
    have others := ih below.2
    rw [List.map_cons]
    by_cases full : part = []
    · subst full
      rw [fill_nil, List.filterMap_cons_none rfl, others]
      rfl
    · by_cases one : part = ['.']
      · subst one
        have dot : Path.stepOf ['.'] = some .here := rfl
        rw [fill_of_not_hasPlaceholder (by decide), List.filterMap_cons_some dot]
        simpa using others
      · rw [List.filterMap_cons_some (stepOf_fill full one (Ne.symm below.1) index)]
        simpa [full, one] using others

theorem moves_ofRecord {filename : String} (below : StaysBelow filename) (index : Nat) :
    (Path.mk (ofRecord filename index)).moves = (names filename index).map .into := by
  have pieces : ['.', '.'] ∉ Text.split '/' filename.toList := fun member =>
    below (List.mem_filterMap.mpr ⟨_, member, rfl⟩)
  rw [Path.moves, Path.steps, toList_ofRecord, split_fill, moves_fill index pieces]
  rfl

theorem head_fill (index : Nat) (text : List Char) :
    (fill index text).head? = some '/' ↔ text.head? = some '/' := by
  induction text using text_induction with
  | nil => simp [fill_nil]
  | hole rest _ =>
    obtain ⟨c, digits, number⟩ := List.exists_cons_of_ne_nil (numeral_ne_nil index)
    have member : c ∈ numeral index := by simp [number]
    have digit := isDigit_of_mem_numeral member
    have different : c ≠ '/' := by
      rintro rfl
      exact nomatch digit
    rw [fill_placeholder, number, placeholder_eq]
    simp [different]
  | plain c rest free _ => simp [fill_cons _ free]

def recordPath (directory : Path) (filename : String) (index : Nat) : Path :=
  directory.join (ofRecord filename index)

/-- The directory that the names of records are counted from. -/
def outer (directory : Path) (filename : String) : Path :=
  if filename.toList.head? = some '/' then ⟨"/"⟩ else directory

section

variable {directory : Path} {filename : String} {i j : Nat} {work trail : Trail}

theorem moves_recordPath (directory : Path) (below : StaysBelow filename) (i : Nat) :
    (recordPath directory filename i).moves =
        (outer directory filename).moves ++ (names filename i).map .into ∧
      ∀ work, (recordPath directory filename i).startFrom work =
        (outer directory filename).startFrom work := by
  have head := head_fill i filename.toList
  rw [← toList_ofRecord] at head
  unfold recordPath outer
  split
  · rename_i absolute
    rw [Path.join_absolute (head.mpr absolute), moves_ofRecord below]
    refine ⟨rfl, fun work => ?_⟩
    simp [Path.startFrom, Path.isAbsolute, head.mpr absolute]
  · rename_i relative
    have relative := mt head.mp relative
    rw [Path.moves_join relative, moves_ofRecord below]
    exact ⟨rfl, fun work => by rw [Path.startFrom, Path.isAbsolute_join relative, Path.startFrom]⟩

theorem trailFrom_recordPath (below : StaysBelow filename) (work : Trail) (i : Nat) :
    (recordPath directory filename i).trailFrom work =
      (outer directory filename).trailFrom work ++ names filename i := by
  obtain ⟨moves, start⟩ := moves_recordPath directory below i
  rw [Path.trailFrom, moves, start, Path.lead_append, Path.lead_names, Path.trailFrom]

theorem names_injective (holds : hasPlaceholder filename.toList = true)
    (same : names filename i = names filename j) : i = j := by
  have inner : ∀ part ∈ parts filename, fill i part = fill j part := fun part member =>
    String.ofList_injective (List.map_inj_left.mp same part member)
  have pieces : ∀ part ∈ Text.split '/' filename.toList, fill i part = fill j part := by
    intro part member
    by_cases full : part = []
    · rw [full, fill_nil, fill_nil]
    · by_cases one : part = ['.']
      · rw [one, fill_of_not_hasPlaceholder (by decide), fill_of_not_hasPlaceholder (by decide)]
      · exact inner part (List.mem_filter.mpr ⟨member, by simp [full, one]⟩)
  refine fill_injective holds (Text.split_injective '/' ?_)
  rw [split_fill, split_fill]
  exact List.map_congr_left pieces

theorem recordPath_injective (below : StaysBelow filename)
    (holds : hasPlaceholder filename.toList = true)
    (same : (recordPath directory filename i).trailFrom work =
      (recordPath directory filename j).trailFrom work) : i = j := by
  rw [trailFrom_recordPath below, trailFrom_recordPath below] at same
  exact names_injective holds (List.append_cancel_left same)

/-- A name with a placeholder has a last part. -/
theorem exists_last_part (holds : hasPlaceholder filename.toList = true) :
    ∃ before part, parts filename = before ++ [part] := by
  rcases List.eq_nil_or_concat (parts filename) with none | ⟨before, part, last⟩
  · have same : names filename 0 = names filename 1 := by simp [names, none]
    exact nomatch names_injective holds same
  · exact ⟨before, part, last.trans List.concat_eq_append⟩

/-- The temporary file of a record is in the directory of the record. -/
theorem scratch_recordPath (below : StaysBelow filename)
    (holds : hasPlaceholder filename.toList = true)
    (scratch : Storage.Scratch work (recordPath directory filename i) trail) :
    ∃ before part, parts filename = before ++ [part] ∧
      trail = (outer directory filename).trailFrom work ++
        before.map (fun part => String.ofList (fill i part)) ++
        [Storage.temporaryName (String.ofList (fill i part))] := by
  obtain ⟨temporary, beside, rfl⟩ := scratch
  obtain ⟨front, name, moves, place⟩ := Path.trailFrom_temporary beside work
  obtain ⟨whole, start⟩ := moves_recordPath directory below i
  obtain ⟨before, part, last⟩ := exists_last_part holds
  rw [whole, names, last, List.map_append, List.map_append, ← List.append_assoc] at moves
  obtain ⟨rfl, same⟩ := List.append_singleton_inj.mp moves
  obtain rfl := PathStep.into.inj same
  refine ⟨before, part, last, ?_⟩
  rw [place, start, Path.lead_append, Path.lead_names, Path.trailFrom]

theorem scratch_ne_recordPath (below : StaysBelow filename)
    (holds : hasPlaceholder filename.toList = true)
    (scratch : Storage.Scratch work (recordPath directory filename i) trail) :
    trail ≠ (recordPath directory filename j).trailFrom work := by
  obtain ⟨before, part, last, place⟩ := scratch_recordPath below holds scratch
  rw [place, trailFrom_recordPath below, names, last, List.map_append, List.append_assoc]
  intro same
  have inner := List.append_cancel_left same
  have letters := congrArg String.toList (List.append_singleton_inj.mp inner).2
  rw [Path.toList_temporaryName, String.toList_ofList, String.toList_ofList] at letters
  exact dotted_fill_ne _ _ letters

theorem scratch_injective (below : StaysBelow filename)
    (holds : hasPlaceholder filename.toList = true)
    (one : Storage.Scratch work (recordPath directory filename i) trail)
    (other : Storage.Scratch work (recordPath directory filename j) trail) : i = j := by
  obtain ⟨before, part, last, place⟩ := scratch_recordPath below holds one
  obtain ⟨before', part', last', place'⟩ := scratch_recordPath below holds other
  obtain ⟨rfl, rfl⟩ : before = before' ∧ part = part' :=
    List.append_singleton_inj.mp (last.symm.trans last')
  have same := place.symm.trans place'
  rw [List.append_assoc, List.append_assoc] at same
  have inner := List.append_cancel_left same
  obtain ⟨fronts, ends⟩ := List.append_singleton_inj.mp inner
  have letters := congrArg String.toList ends
  rw [Path.toList_temporaryName, Path.toList_temporaryName] at letters
  have filled := List.append_cancel_right (List.cons.inj letters).2
  refine names_injective holds ?_
  rw [names, names, last, List.map_append, List.map_append, fronts, List.map_singleton,
    List.map_singleton, String.toList_injective filled]

/-- A record goes through the place of a temporary file only on the way to the output directory. -/
theorem scratch_passesBefore (below : StaysBelow filename)
    (holds : hasPlaceholder filename.toList = true)
    (scratch : Storage.Scratch work (recordPath directory filename i) trail)
    (passes : Storage.PassesBefore work (recordPath directory filename j) trail) :
    directory.Passes work trail := by
  obtain ⟨before, part, last, place⟩ := scratch_recordPath below holds scratch
  obtain ⟨front, name, le, same⟩ := passes
  obtain ⟨whole, start⟩ := moves_recordPath directory below j
  have filled : (names filename j).map PathStep.into ≠ [] := by simp [names, last]
  rw [whole, List.dropLast_append_of_ne_nil filled] at le
  rw [start] at same
  rcases List.prefix_or_prefix_of_prefix le (List.prefix_append _ _) with inside | ⟨more, split⟩
  · unfold outer at inside same
    split at inside
    · simp [Path.moves, Path.steps, Text.split, Path.stepOf] at inside
    · rename_i relative
      rw [if_neg relative] at same
      exact ⟨front, name, inside, same⟩
  · -- Behind the output directory the way is shorter than the one to the temporary file.
    rw [← split, List.prefix_append_right_inj, ← List.map_dropLast, List.prefix_map_iff] at le
    obtain ⟨short, le, rfl⟩ := le
    rw [← Path.lead_into, ← split, Path.lead_append, Path.lead_names, ← Path.trailFrom] at same
    have lengths := congrArg List.length (place.symm.trans same)
    have shorter := le.length_le
    simp only [List.append_assoc, List.length_append, List.length_dropLast, names, last,
      List.length_map, List.length_singleton] at lengths shorter
    omega

end

end Output

end MockData
