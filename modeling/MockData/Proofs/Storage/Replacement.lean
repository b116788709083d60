import MockData.Proofs.Storage.Change
import MockData.Surroundings.Machine

/-!
# Replacing a file

Whatever comes of replacing a file, no other file is touched but the temporary one, and the file is
written whole or not at all: `replace_ends`. If it succeeds the file holds the new content and the
temporary one is gone; if it fails the temporary one is gone or as it was.
-/

namespace MockData

namespace Machine

/-- Running a computation ends with a result and a machine of which `post` holds. -/
def Ends {α : Type} (x : StateM Machine α) (s : Machine) (post : α → Machine → Prop) : Prop :=
  post (x.run s).1 (x.run s).2

structure Undisturbed (s s' : Machine) : Prop where
  disk : s'.disk = s.disk
  time : s'.time = s.time

section

variable {α β : Type} {x : StateM Machine α} {f : α → StateM Machine β} {s : Machine}
  {post post' : α → Machine → Prop}

theorem Ends.pure {a : α} (here : post a s) : Ends (pure a) s post := here

theorem Ends.bind {post' : β → Machine → Prop} (first : Ends x s post)
    (second : ∀ a s', post a s' → Ends (f a) s' post') : Ends (x >>= f) s post' :=
  second _ _ first

theorem Ends.mono (ends : Ends x s post) (weaker : ∀ a s', post a s' → post' a s') :
    Ends x s post' :=
  weaker _ _ ends

theorem Ends.and (one : Ends x s post) (other : Ends x s post') :
    Ends x s fun a s' => post a s' ∧ post' a s' :=
  ⟨one, other⟩

theorem Undisturbed.trans {s s' s'' : Machine} (first : Undisturbed s s')
    (second : Undisturbed s' s'') : Undisturbed s s'' :=
  ⟨second.disk.trans first.disk, second.time.trans first.time⟩

/-- An operation that leaves the disk as it is when it fails. -/
theorem attempt_ends (operation : Disk → Except StorageFault Disk) (s : Machine) :
    Ends (onDisk (Disk.attempt operation)) s fun result s' =>
      match result with
      | .ok () => operation s.disk = .ok s'.disk
      | .error fault => operation s.disk = .error fault ∧ s'.disk = s.disk := by
  unfold Ends onDisk Disk.attempt
  dsimp only [StateT.run]
  cases operation s.disk with
  | ok d => rfl
  | error fault => exact ⟨rfl, rfl⟩

end

end Machine

namespace Storage

open Machine Disk

def Made (p : Path) (d d' : Disk) : Prop :=
  Changes (fun _ => False) (fun _ _ => False) (p.Passes d.work) d d'

theorem Made.trans {p : Path} {d d' d'' : Disk} (first : Made p d d') (second : Made p d' d'') :
    Made p d d'' := by
  rw [Made, first.work] at second
  exact Changes.trans first second

theorem Made.of_parent {p parent : Path} {d d' : Disk} (above : p.parent? = some parent)
    (made : Made parent d d') : Made p d d' := by
  obtain ⟨moves, start⟩ := Path.moves_parent above
  refine made.mono (fun _ => id) (fun _ _ => id) ?_
  rintro _ ⟨front, name, le, rfl⟩
  rw [moves] at le
  exact ⟨front, name, le.trans (List.dropLast_prefix _), by rw [start]⟩

theorem isDirectory_ends (p : Path) (s : Machine) : Ends (isDirectory p) s fun found s' =>
    s'.disk = s.disk ∧ (found = true ↔ s.disk.find p = .ok .directory) := by
  have read : Ends (Storage.kind p) s fun kind s' =>
      s'.disk = s.disk ∧ kind = (s.disk.find p).map DiskNode.kind := ⟨rfl, rfl⟩
  refine read.bind ?_
  rintro _ s' ⟨same, rfl⟩
  cases found : s.disk.find p with
  | error fault => exact .pure ⟨same, nofun, nofun⟩
  | ok node =>
    cases node with
    | file content => exact .pure ⟨same, nofun, nofun⟩
    | directory => exact .pure ⟨same, fun _ => rfl, fun _ => rfl⟩

/-- A directory that could not be made may be there already. -/
theorem keep_ends (p : Path) (fault : StorageFault) (s : Machine) :
    Ends (do if ← isDirectory p then return .ok () else return .error fault :
        StateM Machine (Except StorageFault Unit)) s fun result s' =>
      Made p s.disk s'.disk ∧ (result = .ok () → s'.disk.find p = .ok .directory) := by
  refine (isDirectory_ends p s).bind ?_
  rintro found s' ⟨same, directory⟩
  cases found with
  | false => exact .pure ⟨same ▸ .refl _, nofun⟩
  | true => exact .pure ⟨same ▸ .refl _, fun _ => same ▸ directory.mp rfl⟩

theorem makeOrKeep_ends (p : Path) (s : Machine) : Ends (makeOrKeep p) s fun result s' =>
    Made p s.disk s'.disk ∧ (result = .ok () → s'.disk.find p = .ok .directory) := by
  refine (attempt_ends (fun d => d.makeDirectory p) s).bind ?_
  rintro (fault | ⟨⟩) s' made
  · have same : s'.disk = s.disk := made.2
    rw [← same]
    exact keep_ends p fault s'
  · obtain ⟨changes, directory⟩ := makeDirectory_ok made
    exact .pure ⟨changes, fun _ => directory⟩

theorem ensureAbove_ends (above : Nat) (p : Path) (s : Machine) :
    Ends (ensureAbove above p) s fun result s' =>
      Made p s.disk s'.disk ∧ (result = .ok () → s'.disk.find p = .ok .directory) := by
  induction above generalizing p s with
  | zero => exact makeOrKeep_ends p s
  | succ above ih =>
    refine (attempt_ends (fun d => d.makeDirectory p) s).bind ?_
    rintro (fault | ⟨⟩) s' made
    · have same : s'.disk = s.disk := made.2
      rw [← same]
      by_cases missing : fault = .notFound
      · subst missing
        dsimp only
        cases parent : p.parent? with
        | none => exact makeOrKeep_ends p s'
        | some upper =>
          refine (ih upper s').bind ?_
          rintro (fault | ⟨⟩) s'' ⟨made, _⟩
          · exact .pure ⟨made.of_parent parent, nofun⟩
          · refine (makeOrKeep_ends p s'').mono ?_
            rintro result s''' ⟨more, directory⟩
            exact ⟨(made.of_parent parent).trans more, directory⟩
      · have kept := keep_ends p fault s'
        cases fault <;> first | exact absurd rfl missing | exact kept
    · obtain ⟨changes, directory⟩ := makeDirectory_ok made
      exact .pure ⟨changes, fun _ => directory⟩

theorem ensureDirectory_ends (p : Path) (s : Machine) : Ends (ensureDirectory p) s
    fun result s' => Made p s.disk s'.disk ∧
      (result = .ok () → ∀ trail, p.Passes s.disk.work trail →
        s'.disk.node? trail = some .directory) := by
  unfold ensureDirectory
  split
  · rename_i none
    refine .pure ⟨.refl _, ?_⟩
    rintro - _ ⟨front, name, le, -⟩
    have moves : p.moves = [] := by simp [Path.moves, Path.steps, none, Text.split, Path.stepOf]
    simp [moves] at le
  · refine (ensureAbove_ends p.moves.length p s).mono ?_
    rintro result s' ⟨made, directory⟩
    refine ⟨made, fun ok trail passes => find_directory_passes (directory ok) ?_⟩
    rwa [made.work]

/-- A trail is that of the temporary file of a path. -/
def Scratch (work : Trail) (target : Path) (trail : Trail) : Prop :=
  ∃ temporary, target.temporary? = some temporary ∧ trail = temporary.trailFrom work

/-- A path goes into the names at these trails before it comes to its last. -/
def PassesBefore (work : Trail) (p : Path) (trail : Trail) : Prop :=
  ∃ front name, front ++ [.into name] <+: p.moves.dropLast ∧
    trail = Path.lead (p.startFrom work) front ++ [name]

/-- A file holds its content, and no temporary file is left beside it. -/
structure Settled (d : Disk) (target : Path) (content : ByteArray) : Prop where
  held : d.read target = .ok content
  clean : ∀ trail, Scratch d.work target trail → d.node? trail = none

/-- What replacing a file does, whatever comes of it. If it fails nothing is written but the
temporary file, which is gone again or as it was. -/
structure Replaced (target : Path) (content : ByteArray) (d : Disk)
    (result : Except StorageFault Unit) (d' : Disk) : Prop where
  changes : Changes (Scratch d.work target)
    (fun trail written => result = .ok () ∧ trail = target.trailFrom d.work ∧ written = content)
    (PassesBefore d.work target) d d'
  done : result = .ok () → Settled d' target content
  undone : ∀ fault, result = .error fault → ∀ trail, Scratch d.work target trail →
    d'.node? trail = none ∨ NodeChange (fun _ => False) (PassesBefore d.work target trail)
      (d.node? trail) (d'.node? trail)

/-- Nothing but the temporary file has changed, and it took the place of no directory. -/
theorem changes_of_scratch {target temporary : Path} (beside : target.temporary? = some temporary)
    {wrote : Trail → ByteArray → Prop} {made : Trail → Prop} {d d' : Disk}
    (work : d'.work = d.work) (free : d.node? (temporary.trailFrom d.work) ≠ some .directory)
    (nodes : ∀ trail, trail ≠ temporary.trailFrom d.work → d'.node? trail = d.node? trail) :
    Changes (Scratch d.work target) wrote made d d' where
  work := work
  directories trail held := by
    rw [nodes trail fun here => free (here ▸ held), held]
  nodes trail clear := by
    rw [nodes trail fun here => clear ⟨temporary, beside, here⟩]
    exact .same _

/-- The temporary file is written and takes the name of the target. -/
theorem replaced_of_rename {target temporary : Path} {content : ByteArray}
    (beside : target.temporary? = some temporary) {d d₁ d' : Disk}
    (written : d.write temporary content = .ok d₁)
    (renamed : d₁.rename temporary target = .ok d') :
    Replaced target content d (.ok ()) d' := by
  have apart := Path.trailFrom_temporary_ne beside d.work
  obtain ⟨work, free, nodes⟩ := write_ok written
  obtain ⟨moved, held, work', reached, plain, file, nodes'⟩ := rename_ok renamed
  rw [work] at held reached file nodes'
  obtain rfl : content = moved := by
    rw [nodes, if_pos rfl] at held
    simpa using held
  rw [nodes, if_neg (Ne.symm apart)] at file
  have other {trail : Trail} (fresh : trail ≠ temporary.trailFrom d.work)
      (unnamed : trail ≠ target.trailFrom d.work) : d'.node? trail = d.node? trail := by
    rw [nodes', if_neg unnamed, if_neg fresh, nodes, if_neg fresh]
  have keeps : Keeps d₁ d' := by
    refine ⟨work', fun trail directory => ?_⟩
    rw [nodes] at directory
    split at directory
    · exact nomatch directory
    · rename_i fresh
      rw [other fresh fun here => file (here ▸ directory), directory]
  refine ⟨⟨⟨work'.trans work, fun trail directory => ?_⟩, fun trail clear => ?_⟩,
    fun _ => ⟨?_, ?_⟩, nofun⟩
  · rw [other (fun here => free (here ▸ directory)) fun here => file (here ▸ directory), directory]
  · by_cases here : trail = target.trailFrom d.work
    · rw [nodes', if_pos here]
      exact .written (here ▸ file) ⟨rfl, here, rfl⟩
    · rw [other (fun scratch => clear ⟨temporary, beside, scratch⟩) here]
      exact .same _
  · exact read_of_node? keeps reached plain (by rw [nodes', if_pos rfl])
  · rintro _ ⟨temporary', beside', rfl⟩
    obtain rfl := Option.some.inj (beside.symm.trans beside')
    rw [work', work, nodes', if_neg apart, if_pos rfl]

theorem writeThrough_ends {target temporary : Path} (content : ByteArray)
    (beside : target.temporary? = some temporary) (s : Machine) :
    Ends (writeThrough temporary target content) s fun result s' =>
      Replaced target content s.disk result s'.disk := by
  refine (attempt_ends (fun d => d.write temporary content) s).bind ?_
  rintro (fault | ⟨⟩) s' written
  · have same : s'.disk = s.disk := written.2
    refine .pure ⟨same ▸ .refl _, nofun, fun _ _ trail _ => ?_⟩
    rw [same]
    exact .inr (.same _)
  · refine (attempt_ends (fun d => d.rename temporary target) s').bind ?_
    rintro (fault | ⟨⟩) s'' renamed
    · have same : s''.disk = s'.disk := renamed.2
      obtain ⟨work, free, nodes⟩ := write_ok written
      refine (attempt_ends (fun d => d.remove temporary) s'').bind ?_
      rintro (_ | ⟨⟩) s''' removed
      · obtain ⟨d, removable⟩ := remove_of_write written
        rw [same, removable] at removed
        exact nomatch removed.1
      · obtain ⟨work', _, nodes'⟩ := remove_ok removed
        rw [same] at work' nodes'
        have before := work'.trans work
        refine .pure ⟨changes_of_scratch beside before free fun trail other => ?_, nofun, ?_⟩
        · rw [nodes', work, if_neg other, nodes, if_neg other]
        · rintro _ - _ ⟨temporary', beside', rfl⟩
          obtain rfl := Option.some.inj (beside.symm.trans beside')
          exact .inl (by rw [nodes', work, if_pos rfl])
    · exact .pure (replaced_of_rename beside written renamed)

/-- The part of a replacement that follows when the directories are there. -/
theorem writeBeside_ends (target : Path) (content : ByteArray) (s : Machine) :
    Ends (match target.fileName? with
      | none => return .error (.noFileName target)
      | some name => writeThrough (target.sibling (temporaryName name)) target content :
        StateM Machine (Except StorageFault Unit)) s fun result s' =>
      Replaced target content s.disk result s'.disk := by
  cases named : target.fileName? with
  | none => exact .pure ⟨.refl _, nofun, fun _ _ _ _ => .inr (.same _)⟩
  | some name =>
    have beside : target.temporary? = some (target.sibling (temporaryName name)) := by
      rw [Path.temporary?, named]
      rfl
    exact writeThrough_ends content beside s

theorem replace_ends (target : Path) (content : ByteArray) (s : Machine) :
    Ends (replace target content) s fun result s' =>
      Replaced target content s.disk result s'.disk := by
  unfold replace
  cases parent : target.parent? with
  | none => exact writeBeside_ends target content s
  | some upper =>
    refine (ensureDirectory_ends upper s).bind ?_
    rintro ready s' ⟨made, -⟩
    obtain ⟨moves, start⟩ := Path.moves_parent parent
    have changes {scratch wrote} : Changes scratch wrote (PassesBefore s.disk.work target)
        s.disk s'.disk := by
      refine made.mono nofun nofun ?_
      rintro _ ⟨front, name, le, rfl⟩
      exact ⟨front, name, moves ▸ le, by rw [start]⟩
    have before (trail : Trail) : NodeChange (fun _ => False) (PassesBefore s.disk.work target trail)
        (s.disk.node? trail) (s'.disk.node? trail) :=
      (@changes (fun _ => False) fun _ _ => False).nodes trail nofun
    rcases ready with fault | ⟨⟩
    · exact .pure ⟨changes, nofun, fun _ _ trail _ => .inr (before trail)⟩
    · refine (writeBeside_ends target content s').mono ?_
      rintro result s'' ⟨written, done, undone⟩
      rw [made.work] at written undone
      refine ⟨changes.trans written, done, fun fault failed trail scratch => ?_⟩
      exact (undone fault failed trail scratch).imp_right (before trail).trans

end Storage

end MockData
