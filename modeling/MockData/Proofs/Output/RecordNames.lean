import Mathlib.Data.List.ModifyLast
import MockData.Proofs.Output.FileName
import MockData.Proofs.Storage.Trail

/-!
# The names of records as texts

A name is taken apart at its slashes (`split_ofRecord`, `split_temporary`). So names of records and
of their temporary files are compared part by part, whether the parts name directories, go up or
lead nowhere: `ofRecord_apart`.
-/

namespace MockData

namespace FileName

/-- The name of the temporary file beside a file: what is behind the last slash has a dot in front
of it and `.tmp` behind it. -/
def temporary (name : String) : String :=
  String.ofList (['/'].intercalate ((Text.split '/' name.toList).modifyLast fun part =>
    (Storage.temporaryName (String.ofList part)).toList))

section

variable {name filename : String} {before : List (List Char)} {last : List Char}

/-- There is a part behind the last slash. -/
theorem exists_last (text : List Char) : ∃ before last, Text.split '/' text = before ++ [last] := by
  rcases List.eq_nil_or_concat (Text.split '/' text) with none | ⟨before, last, parts⟩
  · exact absurd none (Text.split_ne_nil '/' text)
  · exact ⟨before, last, parts.trans List.concat_eq_append⟩

theorem split_temporary (parts : Text.split '/' name.toList = before ++ [last]) :
    Text.split '/' (temporary name).toList =
      before ++ [(Storage.temporaryName (String.ofList last)).toList] := by
  have clear : ∀ part ∈ before ++ [last], '/' ∉ part := fun part member =>
    Text.not_mem_of_mem_split (parts ▸ member)
  rw [temporary, String.toList_ofList, parts, List.modifyLast_concat, Text.split_intercalate]
  · simp
  · intro part member
    rcases List.mem_append.mp member with inside | here
    · exact clear part (List.mem_append_left _ inside)
    · have slash := clear last (by simp)
      rw [List.mem_singleton.mp here, Path.toList_temporaryName, String.toList_ofList]
      simpa using slash

example : temporary "a/b.json" = "a/.b.json.tmp" := by decide +kernel

/-- A text starts with a slash if and only if the first of several parts is empty. -/
theorem head_slash_iff {text : List Char} (parts : Text.split '/' text = before ++ [last]) :
    text.head? = some '/' ↔ before.head? = some [] := by
  cases text with
  | nil =>
    obtain ⟨rfl, _⟩ := List.append_singleton_inj.mp (parts.symm.trans (List.nil_append [[]]).symm)
    simp
  | cons c rest =>
    by_cases slash : c = '/'
    · cases before with
      | nil => simp [Text.split, slash, Text.split_ne_nil] at parts
      | cons first others => simp_all [Text.split]
    · obtain ⟨part, others, _, whole⟩ := Text.split_cons '/' c rest slash
      cases before with
      | nil => simpa using slash
      | cons first more =>
        rw [whole] at parts
        obtain ⟨rfl, _⟩ := List.cons.inj parts
        simpa using slash

theorem moves_of_last {step : String} (parts : Text.split '/' name.toList = before ++ [last])
    (read : Path.stepOf last = some (.into step)) :
    (Path.mk name).moves =
      ((before.filterMap Path.stepOf).filter fun step => step ≠ .here) ++ [.into step] := by
  rw [Path.moves, Path.steps, parts, List.filterMap_append, List.filter_append,
    List.filterMap_cons_some read]
  rfl

/-- Where the part behind the last slash names a file, the temporary file beside it has this
name. -/
theorem temporary_leads (parts : Text.split '/' name.toList = before ++ [last])
    (named : Path.stepOf last = some (.into (String.ofList last))) (work : Trail) :
    ∃ beside, (Path.mk name).temporary? = some beside ∧
      beside.trailFrom work = (Path.mk (temporary name)).trailFrom work := by
  have moves := moves_of_last parts named
  have plain : (PathStep.into (Storage.temporaryName (String.ofList last))).Plain :=
    Path.plain_temporaryName (Path.plain_of_mem_moves (p := ⟨name⟩) (by simp [moves]))
  have split := split_temporary parts
  have read := Path.stepOf_stepText plain
  rw [Path.stepText] at read
  have moved := moves_of_last split read
  have start : (Path.mk (temporary name)).startFrom work = (Path.mk name).startFrom work := by
    simp only [Path.startFrom, Path.isAbsolute, head_slash_iff parts, head_slash_iff split]
  refine ⟨(Path.mk name).sibling (Storage.temporaryName (String.ofList last)), ?_, ?_⟩
  · rw [Path.temporary?, Path.fileName?_eq_some_iff.mpr ⟨_, moves⟩, Option.map_some]
  · rw [Path.trailFrom_sibling moves plain, Path.trailFrom, moved, start, Path.lead_into]

/-! ### Names of different records -/

theorem split_ofRecord (filename : String) (index : Nat) :
    Text.split '/' (ofRecord filename index).toList =
      (Text.split '/' filename.toList).map (fill index) := by
  rw [toList_ofRecord, split_fill]

theorem count_slash_ofRecord (filename : String) (index : Nat) :
    (ofRecord filename index).toList.count '/' = filename.toList.count '/' := by
  have lengths := congrArg List.length (split_ofRecord filename index)
  rw [List.length_map, Text.length_split, Text.length_split] at lengths
  exact Nat.succ.inj lengths

variable {i j : Nat}

theorem ofRecord_injective (holds : placeholder <:+: filename.toList)
    (same : ofRecord filename i = ofRecord filename j) : i = j := by
  refine fill_injective ((hasPlaceholder_iff _).mpr holds) ?_
  rw [← toList_ofRecord, ← toList_ofRecord, same]

/-- The dot in front of the last part is not in the other name. -/
theorem temporary_ofRecord_ne (filename : String) (i j : Nat) :
    temporary (ofRecord filename i) ≠ ofRecord filename j := by
  intro same
  obtain ⟨before, last, parts⟩ := exists_last filename.toList
  have one := split_ofRecord filename i
  have other := split_ofRecord filename j
  rw [parts, List.map_append, List.map_singleton] at one other
  have split := split_temporary one
  rw [same, other] at split
  have ends := (List.append_singleton_inj.mp split).2
  rw [Path.toList_temporaryName, String.toList_ofList] at ends
  exact dotted_fill_ne last _ ends.symm

/-- A name is known from that of its temporary file. -/
theorem temporary_injective {other : String} (same : temporary name = temporary other) :
    name = other := by
  obtain ⟨before, last, parts⟩ := exists_last name.toList
  obtain ⟨before', last', parts'⟩ := exists_last other.toList
  have split := split_temporary parts
  rw [same, split_temporary parts'] at split
  obtain ⟨rfl, ends⟩ := List.append_singleton_inj.mp split
  rw [Path.toList_temporaryName, Path.toList_temporaryName, String.toList_ofList,
    String.toList_ofList] at ends
  obtain rfl := List.append_cancel_right (List.cons.inj ends).2
  exact String.toList_inj.mp (Text.split_injective '/' (parts.trans parts'.symm))

/-- With a placeholder the names of different records are different, lie equally deep, and no
temporary file of one has the name of the other or of its temporary file. Without one all records
have the name that is given. The temporary file of a name that names a file is the one that is
written. -/
theorem ofRecord_apart (filename : String) :
    (placeholder <:+: filename.toList → ∀ i j, i ≠ j →
      ofRecord filename i ≠ ofRecord filename j ∧
      (ofRecord filename i).toList.count '/' = (ofRecord filename j).toList.count '/' ∧
      temporary (ofRecord filename i) ≠ ofRecord filename j ∧
      temporary (ofRecord filename i) ≠ temporary (ofRecord filename j)) ∧
    (¬ placeholder <:+: filename.toList → ∀ i, ofRecord filename i = filename) ∧
    ∀ i before last, Text.split '/' (ofRecord filename i).toList = before ++ [last] →
      Path.stepOf last = some (.into (String.ofList last)) → ∀ work, ∃ beside,
        (Path.mk (ofRecord filename i)).temporary? = some beside ∧
        beside.trailFrom work = (Path.mk (temporary (ofRecord filename i))).trailFrom work := by
  refine ⟨fun holds i j different => ?_, fun absent i => ?_, fun i before last parts named work =>
    temporary_leads parts named work⟩
  · have apart : ofRecord filename i ≠ ofRecord filename j := fun same =>
      different (ofRecord_injective holds same)
    refine ⟨apart, ?_, temporary_ofRecord_ne filename i j, fun same =>
      apart (temporary_injective same)⟩
    rw [count_slash_ofRecord, count_slash_ofRecord]
  · rw [← hasPlaceholder_iff, Bool.not_eq_true] at absent
    rw [← String.toList_inj, toList_ofRecord, fill_of_not_hasPlaceholder absent]

theorem ofRecord_apart_touching :
    let filename := "a/9{{index}}{{index}}1"
    let bare := "a/{index}"
    placeholder <:+: filename.toList ∧ 8 ≠ 1000 ∧
      (ofRecord filename 8 ≠ ofRecord filename 1000 ∧
        (ofRecord filename 8).toList.count '/' = (ofRecord filename 1000).toList.count '/' ∧
        temporary (ofRecord filename 8) ≠ ofRecord filename 1000 ∧
        temporary (ofRecord filename 8) ≠ temporary (ofRecord filename 1000)) ∧
      (¬ placeholder <:+: bare.toList ∧ ofRecord bare 8 = bare) ∧
      Text.split '/' (ofRecord filename 8).toList = [['a'], "90090091".toList] ∧
      ∃ beside, (Path.mk (ofRecord filename 8)).temporary? = some beside ∧
        beside.trailFrom [] = (Path.mk (temporary (ofRecord filename 8))).trailFrom [] := by
  intro filename bare
  have holds : placeholder <:+: filename.toList := (hasPlaceholder_iff _).mp (by decide)
  have absent : ¬ placeholder <:+: bare.toList := mt (hasPlaceholder_iff _).mpr (by decide)
  have parts : Text.split '/' (ofRecord filename 8).toList = [['a'], "90090091".toList] := by
    decide +kernel
  obtain ⟨apart, _, beside⟩ := ofRecord_apart filename
  exact ⟨holds, by decide, apart holds 8 1000 (by decide),
    ⟨absent, (ofRecord_apart bare).2.1 absent 8⟩, parts,
    beside 8 [['a']] "90090091".toList parts (by decide) []⟩

end

end FileName

end MockData
