import MockData.CommandLine.Log
import MockData.Proofs.Generation.Independence
import MockData.Proofs.Output.Series

/-!
# What a run leaves on the disk

A run that fails at a record has not touched the disk. A run that writes touches only the files that
are due and their temporary files, and every file is written whole: `run_failure_keeps_files`. A run
that succeeds has written just the files that its report lists: `run_writes_report`.
-/

namespace MockData

/-- A log without a file only prints. -/
theorem CommandLine.Log.write_quiet {log : Log (StateM Machine)} (console : log.file = none) :
    Machine.Quiet log.write := by
  intro note s
  unfold Log.write
  rw [console]
  cases log.threshold.shows note.level <;> exact ⟨rfl, rfl⟩

namespace Generation

open Machine Storage Output

def contextOn (options : GenerateOptions) (s : Machine) : RunContext where
  seed := options.seed.getD s.seed
  locale := options.locale
  reference := (options.baseDate.map fun date => .midnight date.dayNumber).getD s.time

def dueFiles (options : GenerateOptions) (filename : String) (records : List Json) :
    List DueFile :=
  match options.mode with
  | .singleFile => [.ofJson (options.outDir.join (FileName.merged filename)) (.array records)]
  | .separateFiles => recordFiles options.outDir filename 0 records

/-- Those of them that are left at the end. -/
def lastingFiles (options : GenerateOptions) (filename : String) (records : List Json) :
    List DueFile :=
  match options.mode with
  | .singleFile => [.ofJson (options.outDir.join (FileName.merged filename)) (.array records)]
  | .separateFiles => lastingRecords options.outDir filename records

/-- A name with a placeholder does not lead out of the output directory. -/
def Contained (options : GenerateOptions) (filename : String) : Prop :=
  options.mode = .separateFiles → FileName.hasPlaceholder filename.toList = true →
    StaysBelow filename

/-- What a report says of the files is what the disk holds, and no other file has changed. -/
structure Stored (before after : Disk) (report : GenerationReport) (files : List DueFile) :
    Prop where
  listed : report.files = files.map DueFile.path
  bytes : report.bytesWritten = DueFile.totalSize files
  distinct : (files.map fun file => file.path.trailFrom before.work).Nodup
  held : ∀ file ∈ files, after.read file.path = .ok file.content
  clean : ∀ file ∈ files, ∀ trail, Scratch before.work file.path trail → after.node? trail = none
  others : ∀ trail, (∀ file ∈ files,
      trail ≠ file.path.trailFrom before.work ∧ ¬ Scratch before.work file.path trail) →
    ∀ content, after.node? trail = some (.file content) ↔
      before.node? trail = some (.file content)

/-- Every file, temporary ones apart, is what it was or holds all of what was due there, and no file
is gone. -/
structure OldOrWhole (scratch : Trail → Prop) (due : Trail → ByteArray → Prop)
    (before after : Disk) : Prop where
  old : ∀ trail, ¬ scratch trail → ∀ content, before.node? trail = some (.file content) →
    ∃ content', after.node? trail = some (.file content') ∧
      (content' = content ∨ due trail content')
  new : ∀ trail, ¬ scratch trail → ∀ content, after.node? trail = some (.file content) →
    before.node? trail = some (.file content) ∨ due trail content

theorem oldOrWhole_of_changes {scratch : Trail → Prop} {due : Trail → ByteArray → Prop}
    {made : Trail → Prop} {before after : Disk}
    (changes : Disk.Changes scratch due made before after) :
    OldOrWhole scratch due before after := by
  constructor
  all_goals
    intro trail clear content held
    have change := changes.nodes trail clear
    rw [held] at change
  · generalize after.node? trail = node at change
    cases change with
    | same => exact ⟨content, rfl, .inl rfl⟩
    | written _ due => exact ⟨_, rfl, .inr due⟩
  · generalize before.node? trail = node at change
    cases change with
    | same => exact .inl rfl
    | written _ due => exact .inr due

section

variable {journal : Note → StateM Machine Unit} {options : GenerateOptions} {filename : String}
  {records : List Json}

theorem lastingFiles_singleFile (mode : options.mode = .singleFile) :
    lastingFiles options filename records =
      [.ofJson (options.outDir.join (FileName.merged filename)) (.array records)] := by
  rw [lastingFiles, mode]

theorem lastingFiles_indexed (mode : options.mode = .separateFiles)
    (holds : FileName.hasPlaceholder filename.toList = true) :
    lastingFiles options filename records = recordFiles options.outDir filename 0 records := by
  simp only [lastingFiles, mode, lastingRecords, if_pos holds]

theorem lastingFiles_shared (mode : options.mode = .separateFiles)
    (absent : FileName.hasPlaceholder filename.toList = false) :
    lastingFiles options filename records =
      records.getLast?.toList.map (.ofJson (options.outDir.join filename)) := by
  simp only [lastingFiles, mode, lastingRecords_of_not_hasPlaceholder absent]

theorem exists_mem_lastingFiles {file : DueFile}
    (member : file ∈ dueFiles options filename records) :
    ∃ last ∈ lastingFiles options filename records, last.path = file.path := by
  unfold dueFiles at member
  unfold lastingFiles
  split at member
  · exact ⟨file, member, rfl⟩
  · exact exists_mem_lastingRecords member

theorem distinct_lastingFiles (contained : Contained options filename) (work : Trail) :
    ((lastingFiles options filename records).map fun file => file.path.trailFrom work).Nodup := by
  unfold lastingFiles
  split
  · simp
  · rename_i mode
    exact distinct_lastingRecords (contained mode) work records

/-- Nothing has changed but files that are due, their temporary files, and new directories. -/
def WritesOnly (files : List DueFile) (d d' : Disk) : Prop :=
  Disk.Changes (ScratchAmong d.work files) (DueAmong d.work files) (fun _ => True) d d'

/-- After the directories above the output have been made. -/
theorem writesOnly_of_made {p : Path} {files : List DueFile} {d d' d'' : Disk} (made : Made p d d')
    (delivers : Delivers files d' d'') : WritesOnly files d d'' := by
  rw [Delivers, made.work] at delivers
  exact (made.mono (fun _ => False.elim) (fun _ _ => False.elim) fun _ _ => trivial).trans
    (delivers.mono (fun _ => id) (fun _ _ => id) fun _ _ => trivial)

theorem writeRecords_ends (quiet : Quiet journal) (s : Machine) :
    Ends (writeRecords journal options filename records) s fun result s' =>
      WritesOnly (dueFiles options filename records) s.disk s'.disk ∧
        ∀ written, result = .ok written →
          written = (lastingFiles options filename records).map DueFile.written ∧
          (Contained options filename →
            ∀ file ∈ lastingFiles options filename records,
              Settled s'.disk file.path file.content) := by
  refine (ensureDirectory_ends options.outDir s).bind ?_
  rintro (fault | ⟨⟩) s' ⟨made, ready⟩
  · exact .pure ⟨made.mono nofun nofun fun _ _ => trivial, nofun⟩
  · unfold dueFiles lastingFiles
    cases mode : options.mode with
    | singleFile =>
      refine (writeMerged_ends records s').mono ?_
      rintro result s'' ⟨delivers, written⟩
      refine ⟨writesOnly_of_made made delivers, fun files ok => ?_⟩
      obtain ⟨listed, settled⟩ := written files ok
      exact ⟨listed, fun _ => settled trivial⟩
    | separateFiles =>
      refine (writeSeparate_ends quiet records s').mono ?_
      rintro result s'' ⟨delivers, written⟩
      refine ⟨writesOnly_of_made made delivers, fun files ok => ?_⟩
      obtain ⟨listed, settled⟩ := written files ok
      refine ⟨listed, fun contained => settled fun holds => ⟨contained mode holds, ?_⟩⟩
      rw [made.work]
      exact ready rfl

theorem milliseconds_ends (s : Machine) :
    Ends Surroundings.milliseconds s fun _ s' => s = s' := rfl

theorem runIdentifier_ends (s : Machine) :
    Ends Surroundings.runIdentifier s fun _ s' => s = s' := rfl

theorem runSeed_ends (options : GenerateOptions) (s : Machine) :
    Ends (runSeed options) s fun seed s' => s = s' ∧ seed = options.seed.getD s.seed := by
  unfold runSeed
  cases options.seed <;> exact ⟨rfl, rfl⟩

theorem noteFiles_ends (quiet : Quiet journal) (files : List WrittenFile) (s : Machine) :
    Ends (noteFiles journal files) s fun _ s' => Undisturbed s s' := by
  induction files generalizing s with
  | nil => exact .pure ⟨rfl, rfl⟩
  | cons file rest ih =>
    exact (quiet (fileNote file) s).bind fun _ s' first =>
      (ih s').mono fun _ _ others => first.trans others

def ReportScratch (options : GenerateOptions) (work : Trail) (trail : Trail) : Prop :=
  ∃ path, options.reportPath = some path ∧ Scratch work path trail

theorem writeReport_ends (report : GenerationReport) (s : Machine) :
    Ends (writeReport options report) s fun result s' =>
      (options.reportPath = none → s'.disk = s.disk) ∧ (result ≠ .ok () →
        Disk.Changes (ReportScratch options s.disk.work) (fun _ _ => False) (fun _ => True)
          s.disk s'.disk) := by
  unfold writeReport
  split
  · exact .pure ⟨fun _ => rfl, fun failed => absurd rfl failed⟩
  · rename_i path given
    refine (replace_ends path _ s).mono fun result s' replaced => ?_
    refine ⟨fun none => absurd (given.symm.trans none) nofun, fun failed => ?_⟩
    exact replaced.changes.mono (fun _ scratch => ⟨path, given, scratch⟩)
      (fun _ _ due => failed due.1) fun _ _ => trivial

/-- How storing records ends: all of them are there, or files are as they were or hold records. -/
inductive StoreOutcome (options : GenerateOptions) (filename : String) (records : List Json)
    (draft : GenerationReport) (d d' : Disk) :
    Except GenerationError GenerationReport → Prop where
  | stored {report : GenerationReport}
      (generated : report.generated = draft.generated)
      (listed : report.files = draft.files ++
        (lastingFiles options filename records).map DueFile.path)
      (bytes : report.bytesWritten = draft.bytesWritten +
        DueFile.totalSize (lastingFiles options filename records))
      (files : options.reportPath = none → WritesOnly (dueFiles options filename records) d d' ∧
        (Contained options filename → ∀ file ∈ lastingFiles options filename records,
          Settled d' file.path file.content)) :
      StoreOutcome options filename records draft d d' (.ok report)
  | fault (fault : StorageFault)
      (changes : Disk.Changes (fun trail =>
          ScratchAmong d.work (dueFiles options filename records) trail ∨
            ReportScratch options d.work trail)
        (DueAmong d.work (dueFiles options filename records)) (fun _ => True) d d') :
      StoreOutcome options filename records draft d d' (.error (.io fault))

theorem store_ends (quiet : Quiet journal) (start : Nat) (draft : GenerationReport) (s : Machine) :
    Ends (store journal options filename start draft records) s fun result s' =>
      StoreOutcome options filename records draft s.disk s'.disk result := by
  have widen {d d' : Disk} (writes : WritesOnly (dueFiles options filename records) d d') :
      Disk.Changes (fun trail => ScratchAmong d.work (dueFiles options filename records) trail ∨
          ReportScratch options d.work trail)
        (DueAmong d.work (dueFiles options filename records)) (fun _ => True) d d' :=
    Disk.Changes.mono writes (fun _ => .inl) (fun _ _ => id) (fun _ => id)
  refine (writeRecords_ends quiet s).bind ?_
  rintro (fault | files) s₁ ⟨writes, written⟩
  · exact .pure (.fault fault (widen writes))
  · obtain ⟨rfl, settled⟩ := written files rfl
    refine (noteFiles_ends quiet _ s₁).bind fun _ s₂ noted => ?_
    refine (milliseconds_ends s₂).bind ?_
    rintro finish _ rfl
    refine (writeReport_ends _ s₂).bind ?_
    rintro (fault | ⟨⟩) s₃ ⟨unreported, failed⟩
    · have last := failed nofun
      rw [noted.disk, writes.work] at last
      exact .pure (.fault fault ((widen writes).trans
        (last.mono (fun _ => .inr) (fun _ _ => False.elim) fun _ => id)))
    · refine (quiet _ s₃).bind fun _ s₄ completed => .pure ?_
      refine .stored rfl ?_ ?_ fun none => ?_
      · simp [GenerationReport.addFiles, DueFile.written]
      · simp [GenerationReport.addFiles, DueFile.written, List.foldr_map, DueFile.totalSize]
      · rw [completed.disk, unreported none, noted.disk]
        exact ⟨writes, settled⟩

/-- What a report says when all records have been stored. -/
theorem StoreOutcome.toStored {draft report : GenerationReport} {d d' : Disk}
    (outcome : StoreOutcome options filename records draft d d' (.ok report))
    (unlisted : draft.files = [] ∧ draft.bytesWritten = 0) (unreported : options.reportPath = none)
    (contained : Contained options filename) :
    Stored d d' report (lastingFiles options filename records) := by
  obtain ⟨-, listed, bytes, files⟩ := outcome
  obtain ⟨writes, settled⟩ := files unreported
  have settled := settled contained
  refine ⟨by simpa [unlisted.1] using listed, by simpa [unlisted.2] using bytes,
    distinct_lastingFiles contained _, fun file member => (settled file member).held, ?_, ?_⟩
  · intro file member trail scratch
    rw [← writes.work] at scratch
    exact (settled file member).clean trail scratch
  · intro trail apart
    refine writes.file_iff ?_ ?_
    · rintro ⟨file, member, scratch⟩
      obtain ⟨last, left, same⟩ := exists_mem_lastingFiles member
      exact (apart last left).2 (same ▸ scratch)
    · rintro _ ⟨file, member, here, -⟩
      obtain ⟨last, left, same⟩ := exists_mem_lastingFiles member
      exact (apart last left).1 (same ▸ here)

end

section

variable {journal : Note → StateM Machine Unit} {options : GenerateOptions}

theorem generate_ends (registry : Registry (Provider ChaCha8)) (document : Document) (seed : UInt64)
    (s : Machine) : Ends (generate registry options document seed) s fun outcome s' =>
      s = s' ∧ outcome = records registry { contextOn options s with seed } document := by
  unfold generate runContext referenceTime contextOn
  cases options.baseDate <;> exact ⟨rfl, rfl⟩

/-- How a run ends: with the failure of a record before anything is written, or as storing the
records does. -/
inductive RunOutcome (registry : Registry (Provider ChaCha8)) (options : GenerateOptions)
    (document : Document) (before after : Machine) :
    Except GenerationError GenerationReport → Prop where
  | failed {e : GenerationError}
      (failure : records registry (contextOn options before) document = .error e)
      (same : after.disk = before.disk) :
      RunOutcome registry options document before after (.error e)
  | stored {g : GeneratedRecords} {identifier : String} {seed : UInt64}
      {result : Except GenerationError GenerationReport}
      (all : records registry (contextOn options before) document = .ok g)
      (outcome : StoreOutcome options document.filename g.records
        (draftReport identifier options document seed g) before.disk after.disk result) :
      RunOutcome registry options document before after result

theorem run_ends (registry : Registry (Provider ChaCha8)) (quiet : Quiet journal)
    (options : GenerateOptions) (document : Document) (s : Machine) :
    Ends (run registry journal options document) s fun result s' =>
      RunOutcome registry options document s s' result := by
  refine (milliseconds_ends s).bind ?_
  rintro start _ rfl
  refine (runIdentifier_ends s).bind ?_
  rintro identifier _ rfl
  refine (runSeed_ends options s).bind ?_
  rintro _ _ ⟨rfl, rfl⟩
  refine (quiet _ s).bind fun _ s₁ started => (generate_ends registry document _ s₁).bind ?_
  rintro outcome _ ⟨rfl, same⟩
  have context : { contextOn options s₁ with seed := options.seed.getD s.seed } =
      contextOn options s := by
    rw [contextOn, contextOn, started.time]
  rw [context] at same
  cases outcome with
  | error e =>
    refine (quiet _ s₁).bind fun _ s₂ failed => .pure ?_
    exact .failed same.symm (failed.disk.trans started.disk)
  | ok g =>
    refine (store_ends quiet start _ s₁).mono fun result s₂ outcome => ?_
    rw [started.disk] at outcome
    exact .stored same.symm outcome

end

/-- A run that succeeds and writes no report leaves on the disk what it says. Of records in one file
that is the list of all records. Records with a file of their own are in files of different names,
unless they have the same name, and then the last record is there. -/
theorem run_writes_report (registry : Registry (Provider ChaCha8))
    {journal : Note → StateM Machine Unit} (quiet : Quiet journal) {options : GenerateOptions}
    (unreported : options.reportPath = none) (document : Document) {before after : Machine}
    {report : GenerationReport}
    (ran : (run registry journal options document).run before = (.ok report, after)) :
    let alone := solitary registry (contextOn options before) document.template
    let count := document.count.toNat
    let path (name : String) := options.outDir.join name
    let stored := Stored before.disk after.disk report
    ∃ values : List Json, (values.map .ok = (List.range count).map fun i => (alone i).1) ∧
      report.generated = count ∧
      (options.mode = .singleFile →
        report.files = [path (FileName.merged document.filename)] ∧
        stored [.ofJson (path (FileName.merged document.filename)) (.array values)]) ∧
      (options.mode = .separateFiles → FileName.hasPlaceholder document.filename.toList = true →
        StaysBelow document.filename →
        report.files = (List.range count).map
          (fun i => path (FileName.ofRecord document.filename i)) ∧
        stored (values.zipIdx.map fun (record, i) =>
          .ofJson (path (FileName.ofRecord document.filename i)) record)) ∧
      (options.mode = .separateFiles → FileName.hasPlaceholder document.filename.toList = false →
        stored (values.getLast?.toList.map (.ofJson (path document.filename))) ∧
        (0 < count → report.files = [path document.filename])) := by
  intro alone count path stored
  have ends := run_ends registry quiet options document before
  rw [Ends, ran] at ends
  obtain - | ⟨all, outcome⟩ := ends
  rename_i g identifier seed
  have values := (records_combined registry (contextOn options before) document).values all
  have length : g.records.length = count := by simpa using congrArg List.length values
  have whole (contained : Contained options document.filename) :=
    outcome.toStored ⟨rfl, rfl⟩ unreported contained
  refine ⟨g.records, values, ?_, fun single => ?_, fun separate holds below => ?_,
    fun separate absent => ?_⟩
  · cases outcome with
    | stored generated => exact generated.trans length
  · have here := whole fun separate => nomatch single.symm.trans separate
    rw [lastingFiles_singleFile single] at here
    have listed := here.listed
    rw [List.map_singleton, DueFile.path_ofJson] at listed
    exact ⟨listed, here⟩
  · have here := whole fun _ _ => below
    rw [lastingFiles_indexed separate holds] at here
    have listed := here.listed
    rw [paths_recordFiles, length, ← List.range_eq_range'] at listed
    exact ⟨listed, here⟩
  · have here := whole fun _ holds => nomatch holds.symm.trans absent
    rw [lastingFiles_shared separate absent] at here
    refine ⟨here, fun some => ?_⟩
    have listed := here.listed
    cases ends : g.records.getLast? with
    | none =>
      rw [List.getLast?_eq_none_iff.mp ends] at length
      exact absurd length (Nat.ne_of_lt some)
    | some last =>
      rw [ends, Option.toList_some, List.map_singleton, List.map_singleton,
        DueFile.path_ofJson] at listed
      exact listed

theorem run_writes_report_rows :
    let registry : Registry (Provider ChaCha8) :=
      Registry.empty.register "record.index" fun context _ => return .ok (.ofUInt64 context.index)
    let log : CommandLine.Log (StateM Machine) := ⟨.everything, none⟩
    let options : GenerateOptions :=
      { GenerateOptions.standard with mode := .separateFiles, seed := some 5 }
    let place := Location.atRoot "/template"
    let document : Document :=
      ⟨2, "row-{{index}}.json", .faker place "record.index" none, .null⟩
    let old : Trail × DiskNode := (["out", "row-002.json"], .file "old".toUTF8)
    let before : Machine := .withDisk ⟨[(["out"], .directory), old], [], []⟩
    Quiet log.write ∧ options.reportPath = none ∧ ∃ report after,
      (run registry log.write options document).run before = (.ok report, after) ∧
      report.generated = 2 ∧ Stored before.disk after.disk report
        [.ofJson ⟨"out/row-001.json"⟩ (.ofUInt64 0),
          .ofJson ⟨"out/row-002.json"⟩ (.ofUInt64 1)] := by
  intro registry log options place document old before
  have quiet : Quiet log.write := CommandLine.Log.write_quiet rfl
  have succeeds : (match ((run registry log.write options document).run before).1 with
    | .ok _ => true
    | .error _ => false) = true := by decide +kernel
  cases ran : (run registry log.write options document).run before with
  | mk result after =>
    rw [ran] at succeeds
    cases result with
    | error e => exact nomatch succeeds
    | ok report =>
      obtain ⟨values, alone, generated, -, separate, -⟩ :=
        run_writes_report registry quiet (show options.reportPath = none from rfl) document ran
      obtain rfl : values = [.ofUInt64 0, .ofUInt64 1] := by
        have same : values.map .ok = [Json.ofUInt64 0, Json.ofUInt64 1].map Except.ok := alone
        exact (List.map_inj_right fun _ _ => Except.ok.inj).mp same
      obtain ⟨-, stored⟩ := separate rfl (by decide +kernel) (by unfold StaysBelow; decide +kernel)
      have names : options.outDir.join (FileName.ofRecord document.filename 0) =
          ⟨"out/row-001.json"⟩ ∧ options.outDir.join (FileName.ofRecord document.filename 1) =
          ⟨"out/row-002.json"⟩ := by decide +kernel
      refine ⟨quiet, rfl, report, after, rfl, generated, ?_⟩
      rw [← names.1, ← names.2]
      exact stored

/-- If a record fails the run ends with the failure of the first one, and the disk is as it was.
Otherwise a run can fail only at the storage. Then every file that is not a temporary one holds what
it held before, or all of the list or record that was due there. A report is written last, so a
failing run has not written it. -/
theorem run_failure_keeps_files (registry : Registry (Provider ChaCha8))
    {journal : Note → StateM Machine Unit} (quiet : Quiet journal) (options : GenerateOptions)
    (document : Document) (before : Machine) :
    let alone := solitary registry (contextOn options before) document.template
    let count := document.count.toNat
    let work := before.disk.work
    let ended := (run registry journal options document).run before
    ((∃ i < count, ∀ v, (alone i).1 ≠ .ok v) → ∃ k < count, ∃ f, FailsFirst alone k f ∧
      ended.1 = .error (.record (k + 1) f) ∧ ended.2.disk = before.disk) ∧
    (∀ e, ended.1 = .error e → (∃ number f, e = .record number f) ∨ ∃ fault, e = .io fault) ∧
    ∀ fault, ended.1 = .error (.io fault) → ∃ values : List Json,
      (values.map .ok = (List.range count).map fun i => (alone i).1) ∧
      let files := dueFiles options document.filename values
      OldOrWhole (fun trail => ScratchAmong work files trail ∨ ReportScratch options work trail)
        (DueAmong work files) before.disk ended.2.disk := by
  intro alone count work ended
  have ends := run_ends registry quiet options document before
  have combined := records_combined registry (contextOn options before) document
  change RunOutcome registry options document before ended.2 ended.1 at ends
  generalize ended = outcome at ends ⊢
  obtain ⟨result, after⟩ := outcome
  cases ends with
  | @failed e failure same =>
    obtain ⟨k, inside, f, first, rfl⟩ := (combined.error_iff e).mp failure
    exact ⟨fun _ => ⟨k, inside, f, first, rfl, same⟩, by simp, by simp⟩
  | @stored g identifier seed _ all outcome =>
    have succeeds := combined.ok_iff.mp ⟨g, all⟩
    refine ⟨fun ⟨i, inside, fails⟩ => ?_, fun e failed => ?_, fun fault failed => ?_⟩
    · obtain ⟨v, value⟩ := succeeds i inside
      exact absurd value (fails v)
    · subst failed
      cases outcome with
      | fault fault _ => exact .inr ⟨fault, rfl⟩
    · subst failed
      cases outcome with
      | fault _ changes =>
        exact ⟨g.records, combined.values all, oldOrWhole_of_changes changes⟩

theorem run_failure_keeps_files_rows :
    let numbered (fails : UInt64) : Registry (Provider ChaCha8) :=
      Registry.empty.register "record.index" fun context _ =>
        return if context.index = fails then .error (.failed "no such row")
          else .ok (.ofUInt64 context.index)
    let log : CommandLine.Log (StateM Machine) := ⟨.everything, none⟩
    let options : GenerateOptions :=
      { GenerateOptions.standard with mode := .separateFiles, seed := some 5 }
    let place := Location.atRoot "/template"
    let document : Document :=
      ⟨2, "row-{{index}}.json", .faker place "record.index" none, .null⟩
    let before : Machine := .withDisk
      ⟨[(["out"], .directory), (["out", "row-002.json"], .directory)], [], []⟩
    let ended (fails : UInt64) := (run (numbered fails) log.write options document).run before
    let files : List DueFile := [.ofJson ⟨"out/row-001.json"⟩ (.ofUInt64 0),
      .ofJson ⟨"out/row-002.json"⟩ (.ofUInt64 1)]
    Quiet log.write ∧
      ((ended 1).1 = .error (.record 2 (.providerFailed place "record.index" "no such row")) ∧
        (ended 1).2.disk = before.disk) ∧
      (ended 2).1 = .error (.io .isDirectory) ∧
      OldOrWhole (fun trail => ScratchAmong [] files trail ∨ ReportScratch options [] trail)
        (DueAmong [] files) before.disk (ended 2).2.disk := by
  intro numbered log options place document before ended files
  have quiet : Quiet log.write := CommandLine.Log.write_quiet rfl
  refine ⟨quiet, ?_, ?_⟩
  · obtain ⟨fails, -⟩ := run_failure_keeps_files (numbered 1) quiet options document before
    obtain ⟨k, -, f, first, same, disk⟩ := fails ⟨1, by decide, nofun⟩
    have second : FailsFirst (solitary (numbered 1) (contextOn options before) document.template) 1
        (.providerFailed place "record.index" "no such row") := by
      refine ⟨rfl, fun i earlier => ?_⟩
      obtain rfl : i = 0 := by omega
      exact ⟨.ofUInt64 0, rfl⟩
    obtain ⟨rfl, rfl⟩ := failsFirst_unique first second
    exact ⟨same, disk⟩
  · have blocked : (match (ended 2).1 with
      | .error (.io .isDirectory) => true
      | _ => false) = true := by decide +kernel
    have fault : (ended 2).1 = .error (.io .isDirectory) := by
      split at blocked
      · assumption
      · exact nomatch blocked
    obtain ⟨-, -, keeps⟩ := run_failure_keeps_files (numbered 2) quiet options document before
    obtain ⟨values, alone, whole⟩ := keeps _ fault
    obtain rfl : values = [.ofUInt64 0, .ofUInt64 1] := by
      have same : values.map .ok = [Json.ofUInt64 0, Json.ofUInt64 1].map Except.ok := alone
      exact (List.map_inj_right fun _ _ => Except.ok.inj).mp same
    have names : recordPath options.outDir document.filename 0 = ⟨"out/row-001.json"⟩ ∧
        recordPath options.outDir document.filename 1 = ⟨"out/row-002.json"⟩ := by decide +kernel
    have due : dueFiles options document.filename [.ofUInt64 0, .ofUInt64 1] = files := by
      change recordFiles options.outDir document.filename 0 _ = _
      rw [recordFiles_cons, recordFiles_cons, names.1, names.2]
      rfl
    rw [due] at whole
    exact ⟨fault, whole⟩

end Generation

end MockData
