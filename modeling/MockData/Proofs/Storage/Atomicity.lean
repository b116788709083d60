import MockData.Proofs.Storage.Replacement

/-!
# All or nothing

Replacing a file either writes it or leaves it. If it succeeds, the file is there as a whole, its
temporary file is gone, and besides them only directories on the way to it are new. If it fails, no
file has changed or is new, and the temporary file is gone or as it was:
`replace_all_or_nothing`. Directories that were made on the way stay. A path that leads back through
two dots can come by its own place, or by that of its temporary file; then such a directory stands
there (`replace_roundabout`). Where the directory of the file is there already, it takes no more to
succeed than that the file and its temporary file could be written: `replace_ok_iff`.
-/

namespace MockData

namespace Path

variable {p temporary : Path}

theorem length_lead {steps : List PathStep} (plain : ∀ step ∈ steps, step.Plain)
    (straight : .up ∉ steps) (trail : Trail) :
    (lead trail steps).length = trail.length + steps.length := by
  induction steps generalizing trail with
  | nil => rfl
  | cons step rest ih =>
    obtain ⟨first, others⟩ := List.forall_mem_cons.mp plain
    rw [List.mem_cons, not_or] at straight
    cases step with
    | here => exact first.elim
    | up => exact absurd rfl straight.1
    | into name =>
      have onward := ih others straight.2 (trail ++ [name])
      rw [List.length_append, List.length_singleton] at onward
      rw [List.length_cons]
      exact onward.trans (by omega)

theorem length_trailFrom (straight : .up ∉ p.moves) (work : Trail) :
    (p.trailFrom work).length = (p.startFrom work).length + p.moves.length :=
  length_lead (fun _ => plain_of_mem_moves) straight _

theorem length_trailFrom_temporary (straight : .up ∉ p.moves)
    (given : p.temporary? = some temporary) (work : Trail) :
    (temporary.trailFrom work).length = (p.startFrom work).length + p.moves.length := by
  obtain ⟨front, name, moves, trail⟩ := trailFrom_temporary given work
  have place := length_trailFrom straight work
  rw [trailFrom, moves, lead_into, List.length_append, List.length_singleton] at place
  rw [trail, List.length_append, List.length_singleton, place, moves]

end Path

namespace Storage

open Machine Disk

/-- Without two dots a path only goes down, and what it comes by is above its end. -/
theorem length_of_passesBefore {p : Path} {work trail : Trail} (straight : .up ∉ p.moves)
    (passes : PassesBefore work p trail) :
    trail.length < (p.startFrom work).length + p.moves.length := by
  obtain ⟨front, name, le, rfl⟩ := passes
  have within : front ++ [.into name] <+: p.moves := le.trans (List.dropLast_prefix _)
  have plain : ∀ step ∈ front ++ [.into name], step.Plain :=
    fun step member => Path.plain_of_mem_moves (within.subset member)
  have downward : .up ∉ front ++ [.into name] := fun member => straight (within.subset member)
  rw [← Path.lead_into, Path.length_lead plain downward]
  have shorter := le.length_le
  rw [List.length_dropLast, List.length_append, List.length_singleton] at shorter
  rw [List.length_append, List.length_singleton]
  omega

/-- A path without two dots comes by neither its own place nor that of its temporary file. -/
theorem not_passesBefore_of_straight {p : Path} (straight : .up ∉ p.moves) (work : Trail) :
    ¬ PassesBefore work p (p.trailFrom work) ∧
      ∀ trail, Scratch work p trail → ¬ PassesBefore work p trail := by
  constructor
  · intro passes
    have shorter := length_of_passesBefore straight passes
    rw [Path.length_trailFrom straight] at shorter
    exact Nat.lt_irrefl _ shorter
  · rintro _ ⟨temporary, beside, rfl⟩ passes
    have shorter := length_of_passesBefore straight passes
    rw [Path.length_trailFrom_temporary straight beside] at shorter
    exact Nat.lt_irrefl _ shorter

/-! ### The directory of the file -/

theorem ensureDirectory_reaches (p : Path) (s : Machine) : Ends (ensureDirectory p) s
    fun result s' => result = .ok () → p.text ≠ "" → s'.disk.find p = .ok .directory := by
  unfold ensureDirectory
  split
  · rename_i none
    exact .pure fun _ named => absurd none named
  · exact (ensureAbove_ends p.moves.length p s).mono fun _ _ ⟨_, directory⟩ ok _ => directory ok

/-- The directory of a file can be opened when the file has been replaced. -/
theorem replace_reaches (target : Path) (content : ByteArray) (s : Machine) :
    Ends (replace target content) s fun result s' => result = .ok () → ∀ parent,
      target.parent? = some parent → parent.text ≠ "" → s'.disk.find parent = .ok .directory := by
  unfold replace
  cases above : target.parent? with
  | none => exact .mono (writeBeside_ends target content s) nofun
  | some upper =>
    refine (ensureDirectory_reaches upper s).bind ?_
    rintro (fault | ⟨⟩) s' reached
    · exact .pure nofun
    · refine (writeBeside_ends target content s').mono ?_
      rintro result s'' replaced - parent same named
      obtain rfl := Option.some.inj same
      exact find_directory_keeps replaced.changes.toKeeps (reached rfl named)

/-! ### When a replacement succeeds -/

theorem keep_present {p : Path} {s : Machine} (fault : StorageFault)
    (there : s.disk.find p = .ok .directory) :
    Ends (do if ← isDirectory p then return .ok () else return .error fault :
        StateM Machine (Except StorageFault Unit)) s fun result s' =>
      result = .ok () ∧ s'.disk = s.disk := by
  refine (isDirectory_ends p s).bind ?_
  rintro found s' ⟨same, directory⟩
  obtain rfl := directory.mpr there
  exact .pure ⟨rfl, same⟩

theorem ensureAbove_present (above : Nat) {p : Path} {s : Machine}
    (there : s.disk.find p = .ok .directory) :
    Ends (ensureAbove above p) s fun result s' => result = .ok () ∧ s'.disk = s.disk := by
  have attempted := attempt_ends (fun d => d.makeDirectory p) s
  have present := makeDirectory_present there
  cases above with
  | zero | succ =>
    refine attempted.bind ?_
    rintro (fault | ⟨⟩) s' made
    · obtain ⟨failed, same⟩ := made
      obtain rfl := Except.error.inj (present.symm.trans failed)
      rw [← same] at there ⊢
      exact keep_present _ there
    · exact nomatch present.symm.trans made

theorem ensureDirectory_present {p : Path} {s : Machine}
    (there : p.text ≠ "" → s.disk.find p = .ok .directory) :
    Ends (ensureDirectory p) s fun result s' => result = .ok () ∧ s'.disk = s.disk := by
  unfold ensureDirectory
  split
  · exact .pure ⟨rfl, rfl⟩
  · rename_i named
    exact ensureAbove_present p.moves.length (there named)

theorem writeThrough_ok_iff {target temporary : Path} (content : ByteArray)
    (beside : target.temporary? = some temporary) (s : Machine) :
    Ends (writeThrough temporary target content) s fun result _ =>
      result = .ok () ↔ Writable s.disk target ∧ Writable s.disk temporary := by
  have apart := (Path.trailFrom_temporary_ne beside s.disk.work).symm
  refine (attempt_ends (fun d => d.write temporary content) s).bind ?_
  rintro (fault | ⟨⟩) s' written
  · refine .pure ⟨nofun, fun ⟨_, free⟩ => ?_⟩
    obtain ⟨d, writes⟩ := (exists_write_iff content).mpr free
    exact nomatch written.1.symm.trans writes
  · have free : Writable s.disk temporary := (exists_write_iff content).mp ⟨_, written⟩
    have renames := exists_rename_iff (fileAt_of_write written) target
    rw [writable_of_write written apart] at renames
    refine (attempt_ends (fun d => d.rename temporary target) s').bind ?_
    rintro (fault | ⟨⟩) s'' renamed
    · refine (attempt_ends (fun d => d.remove temporary) s'').bind fun _ s''' _ => .pure ?_
      refine ⟨nofun, fun ⟨goal, _⟩ => ?_⟩
      obtain ⟨d, succeeds⟩ := renames.mpr goal
      exact nomatch renamed.1.symm.trans succeeds
    · exact .pure ⟨fun _ => ⟨renames.mp ⟨_, renamed⟩, free⟩, fun _ => rfl⟩

theorem writeBeside_ok_iff (target : Path) (content : ByteArray) (s : Machine) :
    Ends (match target.fileName? with
      | none => return .error (.noFileName target)
      | some name => writeThrough (target.sibling (temporaryName name)) target content :
        StateM Machine (Except StorageFault Unit)) s fun result _ =>
      result = .ok () ↔ Writable s.disk target ∧
        ∃ temporary, target.temporary? = some temporary ∧ Writable s.disk temporary := by
  unfold Path.temporary?
  cases named : target.fileName? with
  | none => exact .pure (by simp)
  | some name =>
    have beside : target.temporary? = some (target.sibling (temporaryName name)) := by
      rw [Path.temporary?, named, Option.map_some]
    refine (writeThrough_ok_iff content beside s).mono fun result _ exactly => ?_
    simpa using exactly

/-- Where its directory is there, a file can be replaced just if it and its temporary file could be
written. -/
theorem replace_ok_iff {target : Path} (content : ByteArray) {s : Machine}
    (there : ∀ parent, target.parent? = some parent → parent.text ≠ "" →
      s.disk.find parent = .ok .directory) :
    Ends (replace target content) s fun result _ => result = .ok () ↔ Writable s.disk target ∧
      ∃ temporary, target.temporary? = some temporary ∧ Writable s.disk temporary := by
  unfold replace
  cases above : target.parent? with
  | none => exact writeBeside_ok_iff target content s
  | some upper =>
    refine (ensureDirectory_present (there upper above)).bind ?_
    rintro _ s' ⟨rfl, same⟩
    rw [← same]
    exact writeBeside_ok_iff target content s'

/-! ### Both endings -/

/-- A node is what it was, or it is new: a directory on the way of the path, where nothing was. -/
def Kept (target : Path) (d d' : Disk) (trail : Trail) : Prop :=
  d'.node? trail = d.node? trail ∨
    PassesBefore d.work target trail ∧ d.node? trail = none ∧ d'.node? trail = some .directory

/-- The file is there as a whole and nothing is left over. Besides, only directories on the way to
it are new, and it is one directory after another up to the file. -/
structure Written (target : Path) (content : ByteArray) (d d' : Disk) : Prop where
  held : d'.read target = .ok content
  place : d'.node? (target.trailFrom d.work) = some (.file content)
  clean : ∃ temporary, target.temporary? = some temporary ∧
    d'.node? (temporary.trailFrom d.work) = none
  way : ∀ trail, PassesBefore d.work target trail → d'.node? trail = some .directory
  parent : ∀ parent, target.parent? = some parent → parent.text ≠ "" →
    d'.find parent = .ok .directory
  others : ∀ trail, trail ≠ target.trailFrom d.work → ¬ Scratch d.work target trail →
    Kept target d d' trail

/-- No file has changed or is new. Nothing is left over, but directories that were made on the
way. -/
structure Unwritten (target : Path) (d d' : Disk) : Prop where
  files : ∀ trail, ¬ Scratch d.work target trail → ∀ content,
    d'.node? trail = some (.file content) ↔ d.node? trail = some (.file content)
  readable : ∀ p content, ¬ Scratch d.work target (p.trailFrom d.work) →
    d.read p = .ok content → d'.read p = .ok content
  place : Kept target d d' (target.trailFrom d.work)
  temporary : ∀ trail, Scratch d.work target trail →
    d'.node? trail = none ∨ Kept target d d' trail
  others : ∀ trail, ¬ Scratch d.work target trail → Kept target d d' trail
  straight : .up ∉ target.moves → d'.node? (target.trailFrom d.work) =
      d.node? (target.trailFrom d.work) ∧
    ∀ trail, Scratch d.work target trail →
      d'.node? trail = none ∨ d'.node? trail = d.node? trail

section

variable {target : Path} {content : ByteArray} {d d' : Disk} {trail : Trail}

theorem kept_of_change {wrote : ByteArray → Prop} (unwritten : ∀ content, ¬ wrote content)
    (change : NodeChange wrote (PassesBefore d.work target trail) (d.node? trail)
      (d'.node? trail)) : Kept target d d' trail := by
  unfold Kept
  generalize d.node? trail = node at change ⊢
  generalize d'.node? trail = node' at change ⊢
  cases change with
  | same => exact .inl rfl
  | written _ due => exact absurd due (unwritten _)
  | made new => exact .inr ⟨new, rfl, rfl⟩

theorem Kept.file_iff (kept : Kept target d d' trail) (content : ByteArray) :
    d'.node? trail = some (.file content) ↔ d.node? trail = some (.file content) := by
  rcases kept with same | ⟨_, before, after⟩
  · rw [same]
  · simp [before, after]

theorem Kept.same (kept : Kept target d d' trail) (apart : ¬ PassesBefore d.work target trail) :
    d'.node? trail = d.node? trail :=
  kept.resolve_right fun ⟨passes, _⟩ => apart passes

theorem not_scratch_trailFrom (target : Path) (work : Trail) :
    ¬ Scratch work target (target.trailFrom work) := by
  rintro ⟨temporary, beside, same⟩
  exact Path.trailFrom_temporary_ne beside work same.symm

/-- A file that can be read is at the end of directories. -/
theorem directories_of_read (held : d.read target = .ok content)
    (passes : PassesBefore d.work target trail) : d.node? trail = some .directory := by
  obtain ⟨reached, -⟩ := located_of_read held
  obtain ⟨-, -, front, name, moves, directories⟩ := locate_named reached
  obtain ⟨before, inner, le, rfl⟩ := passes
  rw [moves, List.dropLast_concat] at le
  exact directories before inner le

theorem exists_temporary_of_read (held : d.read target = .ok content) :
    ∃ temporary, target.temporary? = some temporary := by
  obtain ⟨reached, -⟩ := located_of_read held
  obtain ⟨-, -, front, name, moves, -⟩ := locate_named reached
  have named := Path.fileName?_eq_some_iff.mpr ⟨front, moves⟩
  exact ⟨_, by rw [Path.temporary?, named, Option.map_some]⟩

theorem Replaced.written (replaced : Replaced target content d (.ok ()) d')
    (parent : ∀ parent, target.parent? = some parent → parent.text ≠ "" →
      d'.find parent = .ok .directory) : Written target content d d' := by
  have work := replaced.changes.work
  obtain ⟨held, clean⟩ := replaced.done rfl
  obtain ⟨-, place, -⟩ := located_of_read held
  obtain ⟨temporary, beside⟩ := exists_temporary_of_read held
  rw [work] at place clean
  refine ⟨held, place, ⟨temporary, beside, clean _ ⟨temporary, beside, rfl⟩⟩, fun trail passes => ?_,
    parent, fun trail elsewhere clear => ?_⟩
  · exact directories_of_read held (work ▸ passes)
  · exact kept_of_change (fun _ ⟨_, here, _⟩ => elsewhere here) (replaced.changes.nodes trail clear)

theorem Replaced.unwritten {fault : StorageFault}
    (replaced : Replaced target content d (.error fault) d') : Unwritten target d d' := by
  have others (trail : Trail) (clear : ¬ Scratch d.work target trail) : Kept target d d' trail :=
    kept_of_change (fun _ due => nomatch due.1) (replaced.changes.nodes trail clear)
  have place := others _ (not_scratch_trailFrom target d.work)
  have temporary (trail : Trail) (scratch : Scratch d.work target trail) :
      d'.node? trail = none ∨ Kept target d d' trail :=
    (replaced.undone fault rfl trail scratch).imp_right (kept_of_change fun _ => id)
  refine ⟨fun trail clear => (others trail clear).file_iff, fun p content clear held => ?_, place,
    temporary, others, fun straight => ?_⟩
  · obtain ⟨-, file, -⟩ := located_of_read held
    have after := ((others _ clear).file_iff content).mpr file
    exact read_keeps replaced.changes.toKeeps held (after.trans file.symm)
  · obtain ⟨apart, beside⟩ := not_passesBefore_of_straight straight d.work
    exact ⟨place.same apart, fun trail scratch =>
      (temporary trail scratch).imp_right fun kept => kept.same (beside trail scratch)⟩

end

/-- A replacement that succeeds has written the file as a whole; one that fails has written
nothing. Where the directory of the file is there, it fails only if the file or its temporary one
could not be written. -/
theorem replace_all_or_nothing (target : Path) (content : ByteArray) (before : Machine) :
    let ended := (replace target content : StateM Machine _).run before
    (ended.1 = .ok () → Written target content before.disk ended.2.disk) ∧
    (∀ fault, ended.1 = .error fault → Unwritten target before.disk ended.2.disk) ∧
    ((∀ parent, target.parent? = some parent → parent.text ≠ "" →
        before.disk.find parent = .ok .directory) →
      (ended.1 = .ok () ↔ Writable before.disk target ∧
        ∃ temporary, target.temporary? = some temporary ∧ Writable before.disk temporary)) := by
  intro ended
  have replaced := replace_ends target content before
  have reaches := replace_reaches target content before
  change Replaced target content before.disk ended.1 ended.2.disk at replaced
  change ended.1 = .ok () → _ at reaches
  refine ⟨fun succeeds => ?_, fun fault fails => ?_, replace_ok_iff content⟩
  · rw [succeeds] at replaced
    exact replaced.written (reaches succeeds)
  · rw [fails] at replaced
    exact replaced.unwritten

theorem replace_all_or_nothing_stale :
    let stale : Trail × DiskNode := (["out", ".a.json.tmp"], .file "stale".toUTF8)
    let before : Machine := .withDisk ⟨[(["out"], .directory), stale], [], []⟩
    let written : Path := ⟨"out/a.json"⟩
    let refused : Path := ⟨"out/sub/a.json/"⟩
    let ended (target : Path) := (replace target "new".toUTF8 : StateM Machine _).run before
    (written.parent? = some ⟨"out"⟩ ∧ before.disk.find ⟨"out"⟩ = .ok .directory ∧
      (ended written).1 = .ok () ∧
      Written written "new".toUTF8 before.disk (ended written).2.disk) ∧
    (ended refused).1 = .error .notDirectory ∧
      Unwritten refused before.disk (ended refused).2.disk := by
  intro stale before written refused ended
  have above : written.parent? = some ⟨"out"⟩ := by decide +kernel
  have directory : before.disk.find ⟨"out"⟩ = .ok .directory := by rfl
  have goal : Writable before.disk written := by decide +kernel
  have beside : Writable before.disk ⟨"out/.a.json.tmp"⟩ := by decide +kernel
  have temporary : written.temporary? = some ⟨"out/.a.json.tmp"⟩ := by decide +kernel
  have fails : (ended refused).1 = .error .notDirectory := by decide +kernel
  obtain ⟨whole, -, exactly⟩ := replace_all_or_nothing written "new".toUTF8 before
  obtain ⟨-, nothing, -⟩ := replace_all_or_nothing refused "new".toUTF8 before
  have there : ∀ parent, written.parent? = some parent → parent.text ≠ "" →
      before.disk.find parent = .ok .directory := by
    rintro parent given -
    obtain rfl := Option.some.inj (above.symm.trans given)
    exact directory
  have succeeds : (ended written).1 = .ok () :=
    (exactly there).mpr ⟨goal, ⟨"out/.a.json.tmp"⟩, temporary, beside⟩
  exact ⟨⟨above, directory, succeeds, whole succeeds⟩, fails, nothing _ fails⟩

/-- A path that comes by its own place, or by that of its temporary file, leaves a directory there
where nothing was, and the replacement fails. -/
theorem replace_roundabout :
    let bare : Machine := .withDisk ⟨[], [], []⟩
    let ended (target : Path) := (replace target "new".toUTF8 : StateM Machine _).run bare
    let own : Path := ⟨"a/../a"⟩
    let beside : Path := ⟨".a.tmp/../a"⟩
    ((ended own).1 = .error .isDirectory ∧ own.trailFrom [] = ["a"] ∧
      bare.disk.node? ["a"] = none ∧
      ((ended own).2.disk.node? ["a"]).map DiskNode.kind = some .directory) ∧
    (ended beside).1 = .error .isDirectory ∧ Scratch [] beside [".a.tmp"] ∧
      bare.disk.node? [".a.tmp"] = none ∧
      ((ended beside).2.disk.node? [".a.tmp"]).map DiskNode.kind = some .directory := by
  intro bare ended own beside
  have scratch : Scratch [] beside [".a.tmp"] :=
    ⟨⟨".a.tmp/../.a.tmp"⟩, by decide +kernel, by decide +kernel⟩
  exact ⟨⟨by decide +kernel, by decide +kernel, rfl, by decide +kernel⟩, by decide +kernel, scratch,
    rfl, by decide +kernel⟩

end Storage

end MockData
