import MockData.Proofs.Output.Targets

/-!
# Writing one file after another

Whatever comes of it, nothing changes but the files that are due and what they need:
`writeEach_ends`. If all could be written the last one is settled. The others stay settled if they
are spared by those that follow, and the files of records with a placeholder spare each other:
`writeEach_settles`.
-/

namespace MockData

structure DueFile where
  path : Path
  content : ByteArray

namespace DueFile

def ofJson (path : Path) (value : Json) : DueFile := ⟨path, value.pretty.toUTF8⟩

@[simp] theorem path_ofJson (path : Path) (value : Json) : (ofJson path value).path = path := rfl

def written (file : DueFile) : WrittenFile := ⟨file.path, file.content.size⟩

def totalSize (files : List DueFile) : Nat := files.foldr (fun file n => file.content.size + n) 0

end DueFile

namespace Storage

open Disk

def ScratchAmong (work : Trail) (files : List DueFile) (trail : Trail) : Prop :=
  ∃ file ∈ files, Scratch work file.path trail

def DueAmong (work : Trail) (files : List DueFile) (trail : Trail) (content : ByteArray) : Prop :=
  ∃ file ∈ files, trail = file.path.trailFrom work ∧ content = file.content

def PassesAmong (work : Trail) (files : List DueFile) (trail : Trail) : Prop :=
  ∃ file ∈ files, PassesBefore work file.path trail

def Delivers (files : List DueFile) (d d' : Disk) : Prop :=
  Changes (ScratchAmong d.work files) (DueAmong d.work files) (PassesAmong d.work files) d d'

/-- Replacing another file leaves a file and the place of its temporary file alone. -/
structure Spares (d : Disk) (target other : Path) : Prop where
  file : ¬ Scratch d.work other (target.trailFrom d.work) ∧
    target.trailFrom d.work ≠ other.trailFrom d.work
  temporary : ∀ trail, Scratch d.work target trail → ¬ Scratch d.work other trail ∧
    trail ≠ other.trailFrom d.work ∧
    (PassesBefore d.work other trail → d.node? trail = some .directory)

section

variable {files more : List DueFile} {file : DueFile} {d d' d'' : Disk}

theorem Delivers.mono (delivers : Delivers files d d') (subset : files ⊆ more) :
    Delivers more d d' :=
  Changes.mono delivers (fun _ ⟨file, member, here⟩ => ⟨file, subset member, here⟩)
    (fun _ _ ⟨file, member, due⟩ => ⟨file, subset member, due⟩)
    (fun _ ⟨file, member, passes⟩ => ⟨file, subset member, passes⟩)

theorem Delivers.trans (first : Delivers files d d') (second : Delivers files d' d'') :
    Delivers files d d'' := by
  rw [Delivers, first.work] at second
  exact Changes.trans first second

theorem Replaced.delivers (file : DueFile) {result : Except StorageFault Unit}
    (replaced : Replaced file.path file.content d result d') : Delivers [file] d d' :=
  replaced.changes.mono (fun _ scratch => ⟨file, List.mem_singleton_self _, scratch⟩)
    (fun _ _ ⟨_, due⟩ => ⟨file, List.mem_singleton_self _, due⟩)
    (fun _ passes => ⟨file, List.mem_singleton_self _, passes⟩)

theorem Settled.of_delivers {target : Path} {content : ByteArray}
    (settled : Settled d target content) (delivers : Delivers files d d')
    (spares : ∀ file ∈ files, Spares d target file.path) : Settled d' target content where
  held := by
    obtain ⟨_, here, _⟩ := located_of_read settled.held
    refine read_keeps delivers.toKeeps settled.held (delivers.node?_eq ?_ ?_ ?_)
    · rintro ⟨file, member, scratch⟩
      exact (spares file member).file.1 scratch
    · rintro _ ⟨file, member, same, _⟩
      exact (spares file member).file.2 same
    · intro none
      rw [here] at none
      exact nomatch none
  clean trail scratch := by
    rw [delivers.work] at scratch
    rw [delivers.node?_eq ?_ ?_ ?_, settled.clean trail scratch]
    · rintro ⟨file, member, other⟩
      exact ((spares file member).temporary trail scratch).1 other
    · rintro _ ⟨file, member, same, _⟩
      exact ((spares file member).temporary trail scratch).2.1 same
    · rintro none ⟨file, member, passes⟩
      have directory := ((spares file member).temporary trail scratch).2.2 passes
      rw [none] at directory
      exact nomatch directory

end

end Storage

/-- A journal that goes to no file and leaves the clock alone. -/
def Machine.Quiet (journal : Note → StateM Machine Unit) : Prop :=
  ∀ note s, Ends (journal note) s fun _ s' => Undisturbed s s'

namespace Output

open Machine Storage FileName

def recordFiles (directory : Path) (filename : String) (index : Nat) (records : List Json) :
    List DueFile :=
  (records.zipIdx index).map fun (record, i) => .ofJson (recordPath directory filename i) record

section

variable {directory : Path} {filename : String}

theorem recordFiles_cons (index : Nat) (record : Json) (rest : List Json) :
    recordFiles directory filename index (record :: rest) =
      .ofJson (recordPath directory filename index) record ::
        recordFiles directory filename (index + 1) rest := rfl

theorem recordPath_of_not_hasPlaceholder (absent : hasPlaceholder filename.toList = false)
    (index : Nat) : recordPath directory filename index = directory.join filename := by
  have same : ofRecord filename index = filename := by
    rw [← String.toList_inj, toList_ofRecord, fill_of_not_hasPlaceholder absent]
  rw [recordPath, same]

theorem mem_recordFiles {index : Nat} {records : List Json} {file : DueFile}
    (member : file ∈ recordFiles directory filename index records) :
    ∃ i, index ≤ i ∧ ∃ record, file = .ofJson (recordPath directory filename i) record := by
  obtain ⟨⟨record, i⟩, inside, rfl⟩ := List.mem_map.mp member
  exact ⟨i, List.le_snd_of_mem_zipIdx inside, record, rfl⟩

theorem paths_recordFiles (index : Nat) (records : List Json) :
    (recordFiles directory filename index records).map DueFile.path =
      (List.range' index records.length).map (recordPath directory filename) := by
  induction records generalizing index with
  | nil => rfl
  | cons record rest ih =>
    rw [recordFiles_cons, List.map_cons, ih, List.length_cons, List.range'_succ, List.map_cons,
      DueFile.path_ofJson]

theorem distinct_recordFiles (below : StaysBelow filename)
    (holds : hasPlaceholder filename.toList = true) (work : Trail) (index : Nat)
    (records : List Json) :
    ((recordFiles directory filename index records).map fun file =>
      file.path.trailFrom work).Nodup := by
  have trails : ((recordFiles directory filename index records).map fun file =>
      file.path.trailFrom work) =
        ((List.range' index records.length).map (recordPath directory filename)).map
          (Path.trailFrom work) := by
    rw [← paths_recordFiles, List.map_map, Function.comp_def]
  rw [trails, List.nodup_iff_pairwise_ne, List.pairwise_map, List.pairwise_map]
  have indices : (List.range' index records.length).Pairwise fun i j => i ≠ j := List.nodup_range'
  refine indices.imp fun {i j} different same => ?_
  exact different (recordPath_injective below holds same)

/-- Files of different records spare each other once the output directory is there. -/
theorem spares_recordPath (below : StaysBelow filename)
    (holds : hasPlaceholder filename.toList = true) {d : Disk}
    (ready : ∀ trail, directory.Passes d.work trail → d.node? trail = some .directory) {i j : Nat}
    (different : i ≠ j) :
    Spares d (recordPath directory filename i) (recordPath directory filename j) where
  file := by
    refine ⟨fun scratch => ?_, fun same => different (recordPath_injective below holds same)⟩
    exact scratch_ne_recordPath below holds scratch rfl
  temporary trail scratch := by
    refine ⟨fun other => different (scratch_injective below holds scratch other),
      scratch_ne_recordPath below holds scratch, fun passes => ?_⟩
    exact ready trail (scratch_passesBefore below holds scratch passes)

/-- The files of records that are left at the end. Without a placeholder every record takes the
place of the one before. -/
def lastingRecords (directory : Path) (filename : String) (records : List Json) : List DueFile :=
  if hasPlaceholder filename.toList then recordFiles directory filename 0 records
  else (recordFiles directory filename 0 records).getLast?.toList

theorem lastingRecords_of_not_hasPlaceholder (absent : hasPlaceholder filename.toList = false)
    (records : List Json) : lastingRecords directory filename records =
      records.getLast?.toList.map (DueFile.ofJson (directory.join filename)) := by
  have shared (index : Nat) : recordFiles directory filename index records =
      records.map (DueFile.ofJson (directory.join filename)) := by
    induction records generalizing index with
    | nil => rfl
    | cons record rest ih =>
      rw [recordFiles_cons, ih, recordPath_of_not_hasPlaceholder absent, List.map_cons]
  rw [lastingRecords, absent, if_neg Bool.false_ne_true, shared, List.getLast?_map,
    Option.toList_map]

theorem distinct_lastingRecords
    (below : hasPlaceholder filename.toList = true → StaysBelow filename) (work : Trail)
    (records : List Json) :
    ((lastingRecords directory filename records).map fun file =>
      file.path.trailFrom work).Nodup := by
  unfold lastingRecords
  split
  · rename_i holds
    exact distinct_recordFiles (below holds) holds work 0 records
  · cases (recordFiles directory filename 0 records).getLast? <;> simp

/-- No record goes to a file that is not left at the end. -/
theorem exists_mem_lastingRecords {records : List Json} {file : DueFile}
    (member : file ∈ recordFiles directory filename 0 records) :
    ∃ last ∈ lastingRecords directory filename records, last.path = file.path := by
  unfold lastingRecords
  split
  · exact ⟨file, member, rfl⟩
  · rename_i absent
    have shared {other : DueFile} (inside : other ∈ recordFiles directory filename 0 records) :
        other.path = directory.join filename := by
      obtain ⟨i, _, record, rfl⟩ := mem_recordFiles inside
      rw [DueFile.path_ofJson,
        recordPath_of_not_hasPlaceholder (Bool.eq_false_iff.mpr absent)]
    cases ends : (recordFiles directory filename 0 records).getLast? with
    | none =>
      rw [List.getLast?_eq_none_iff.mp ends] at member
      exact nomatch member
    | some last =>
      refine ⟨last, List.mem_singleton_self last, ?_⟩
      rw [shared (List.mem_of_getLast? ends), shared member]

theorem writeJson_ends (path : Path) (value : Json) (s : Machine) :
    Ends (writeJson path value) s fun result s' =>
      let file := DueFile.ofJson path value
      Delivers [file] s.disk s'.disk ∧ ∀ written, result = .ok written →
        written = file.written ∧ Settled s'.disk file.path file.content := by
  refine (replace_ends path value.pretty.toUTF8 s).bind ?_
  rintro (fault | ⟨⟩) s' replaced
  · exact .pure ⟨replaced.delivers (.ofJson path value), nofun⟩
  · refine .pure ⟨replaced.delivers (.ofJson path value), ?_⟩
    rintro _ ⟨⟩
    exact ⟨rfl, replaced.done rfl⟩

theorem writeEach_ends (index : Nat) (records : List Json) (s : Machine) :
    Ends (writeEach directory filename index records) s fun result s' =>
      let files := recordFiles directory filename index records
      Delivers files s.disk s'.disk ∧ ∀ written, result = .ok written →
        written = files.map DueFile.written ∧
        ∀ last ∈ files.getLast?, Settled s'.disk last.path last.content := by
  induction records generalizing index s with
  | nil =>
    refine .pure ⟨Disk.Changes.refl _, ?_⟩
    rintro _ ⟨⟩
    exact ⟨rfl, nofun⟩
  | cons record rest ih =>
    refine (writeJson_ends (recordPath directory filename index) record s).bind ?_
    rintro (fault | file) s' ⟨delivers, written⟩
    · exact .pure ⟨delivers.mono (by simp [recordFiles_cons]), nofun⟩
    · obtain ⟨rfl, settled⟩ := written file rfl
      refine (ih (index + 1) s').bind ?_
      rintro (fault | files) s'' ⟨others, behind⟩
      · exact .pure ⟨(delivers.mono (by simp [recordFiles_cons])).trans
          (others.mono (List.subset_cons_self _ _)), nofun⟩
      · obtain ⟨rfl, last⟩ := behind files rfl
        refine .pure ⟨(delivers.mono (by simp [recordFiles_cons])).trans
          (others.mono (List.subset_cons_self _ _)), ?_⟩
        rintro _ ⟨⟩
        refine ⟨rfl, fun final ends => ?_⟩
        rw [recordFiles_cons, List.getLast?_cons, Option.mem_some_iff] at ends
        cases behind : (recordFiles directory filename (index + 1) rest).getLast? with
        | none =>
          rw [behind] at ends
          subst ends
          rw [List.getLast?_eq_none_iff.mp behind] at others
          exact settled.of_delivers others nofun
        | some other =>
          rw [behind] at ends
          subst ends
          exact last other behind

/-- All files of records are settled when the last one has been written. -/
theorem writeEach_settles (below : StaysBelow filename)
    (holds : hasPlaceholder filename.toList = true) (index : Nat) (records : List Json)
    (s : Machine)
    (ready : ∀ trail, directory.Passes s.disk.work trail → s.disk.node? trail = some .directory) :
    Ends (writeEach directory filename index records) s fun result s' =>
      ∀ written, result = .ok written →
        ∀ file ∈ recordFiles directory filename index records,
          Settled s'.disk file.path file.content := by
  induction records generalizing index s with
  | nil => exact .pure nofun
  | cons record rest ih =>
    refine (writeJson_ends (recordPath directory filename index) record s).bind ?_
    rintro (fault | file) s' ⟨delivers, written⟩
    · exact .pure nofun
    · obtain ⟨-, settled⟩ := written file rfl
      have ready' : ∀ trail, directory.Passes s'.disk.work trail →
          s'.disk.node? trail = some .directory := by
        rw [delivers.work]
        exact fun trail passes => delivers.directories trail (ready trail passes)
      refine ((writeEach_ends (index + 1) rest s').and (ih (index + 1) s' ready')).bind ?_
      rintro (fault | files) s'' ⟨⟨others, -⟩, behind⟩
      · exact .pure nofun
      · refine .pure fun _ _ file member => ?_
        rcases List.mem_cons.mp member with rfl | inside
        · refine settled.of_delivers others fun other follows => ?_
          obtain ⟨i, after, _, rfl⟩ := mem_recordFiles follows
          rw [DueFile.path_ofJson, DueFile.path_ofJson]
          exact spares_recordPath below holds ready' (by omega)
        · exact behind files rfl file inside

/-- What comes of writing files: only those that are due change, and if it succeeds those that are
left at the end are noted, and settled if nothing stands in the way. -/
def Written (due lasting : List DueFile) (settles : Prop) (d : Disk)
    (result : Except StorageFault (List WrittenFile)) (d' : Disk) : Prop :=
  Delivers due d d' ∧ ∀ written, result = .ok written →
    written = lasting.map DueFile.written ∧
      (settles → ∀ file ∈ lasting, Settled d' file.path file.content)

theorem writeMerged_ends (records : List Json) (s : Machine) :
    Ends (writeMerged directory filename records) s fun result s' =>
      let file := DueFile.ofJson (directory.join (merged filename)) (.array records)
      Written [file] [file] True s.disk result s'.disk := by
  refine (writeJson_ends (directory.join (merged filename)) (.array records) s).bind ?_
  rintro (fault | file) s' ⟨delivers, written⟩
  · exact .pure ⟨delivers, nofun⟩
  · obtain ⟨rfl, settled⟩ := written file rfl
    refine .pure ⟨delivers, ?_⟩
    rintro _ ⟨⟩
    exact ⟨rfl, fun _ => by simpa using settled⟩

/-- The output directory is there, and no record with a placeholder leads out of it. -/
def Steady (directory : Path) (filename : String) (d : Disk) : Prop :=
  hasPlaceholder filename.toList = true → StaysBelow filename ∧
    ∀ trail, directory.Passes d.work trail → d.node? trail = some .directory

/-- The part of writing records to files of their own that follows the warning. -/
theorem writeLasting_ends (records : List Json) (s : Machine) :
    Ends (do
      match ← writeEach directory filename 0 records with
      | .ok files =>
        return .ok (if hasPlaceholder filename.toList then files else files.getLast?.toList)
      | .error fault => return .error fault :
        StateM Machine (Except StorageFault (List WrittenFile))) s fun result s' =>
      Written (recordFiles directory filename 0 records) (lastingRecords directory filename records)
        (Steady directory filename s.disk) s.disk result s'.disk := by
  by_cases holds : hasPlaceholder filename.toList = true
  · have settles : Ends (writeEach directory filename 0 records) s fun result s' =>
        Steady directory filename s.disk → ∀ written, result = .ok written →
          ∀ file ∈ recordFiles directory filename 0 records,
            Settled s'.disk file.path file.content := fun steady =>
      writeEach_settles (steady holds).1 holds 0 records s (steady holds).2
    refine ((writeEach_ends 0 records s).and settles).bind ?_
    rintro (fault | files) s' ⟨⟨delivers, listed⟩, settled⟩
    · exact .pure ⟨delivers, nofun⟩
    · refine .pure ⟨delivers, ?_⟩
      rintro _ ⟨⟩
      rw [if_pos holds, lastingRecords, if_pos holds]
      exact ⟨(listed files rfl).1, fun steady => settled steady files rfl⟩
  · refine (writeEach_ends 0 records s).bind ?_
    rintro (fault | files) s' ⟨delivers, listed⟩
    · exact .pure ⟨delivers, nofun⟩
    · obtain ⟨rfl, last⟩ := listed files rfl
      refine .pure ⟨delivers, ?_⟩
      rintro _ ⟨⟩
      rw [if_neg holds, lastingRecords, if_neg holds, List.getLast?_map, Option.toList_map]
      exact ⟨rfl, fun _ file member => last file (Option.mem_toList.mp member)⟩

theorem writeSeparate_ends {journal : Note → StateM Machine Unit} (quiet : Quiet journal)
    (records : List Json) (s : Machine) :
    Ends (writeSeparate journal directory filename records) s fun result s' =>
      Written (recordFiles directory filename 0 records) (lastingRecords directory filename records)
        (Steady directory filename s.disk) s.disk result s'.disk := by
  unfold writeSeparate
  dsimp only
  split
  · refine (quiet _ s).bind fun _ s' same => ?_
    rw [← same.disk]
    exact writeLasting_ends records s'
  · exact writeLasting_ends records s

end

end Output

end MockData
