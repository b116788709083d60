import MockData.Proofs.Storage.Trail

/-!
# How a disk changes

`Changes` bounds what may differ between two disks: files that are written whole, directories that
are made where nothing was, and scratch names of which nothing is said. It holds of one operation
after another, so it holds of whole runs. For every operation of a disk there is one lemma that says
what it does when it succeeds. Writing and renaming succeed just where a file is `Writable`.
-/

namespace MockData

namespace Disk

/-- What may become of a node: nothing, a file that is written whole in the place of no directory,
or a directory where nothing was. -/
inductive NodeChange (wrote : ByteArray → Prop) (made : Prop) :
    Option DiskNode → Option DiskNode → Prop where
  | same (node : Option DiskNode) : NodeChange wrote made node node
  | written {node : Option DiskNode} {content : ByteArray} (file : node ≠ some .directory)
      (due : wrote content) : NodeChange wrote made node (some (.file content))
  | made (new : made) : NodeChange wrote made none (some .directory)

structure Changes (scratch : Trail → Prop) (wrote : Trail → ByteArray → Prop) (made : Trail → Prop)
    (d d' : Disk) : Prop extends Keeps d d' where
  nodes : ∀ trail, ¬ scratch trail →
    NodeChange (wrote trail) (made trail) (d.node? trail) (d'.node? trail)

theorem Keeps.trans {d d' d'' : Disk} (first : Keeps d d') (second : Keeps d' d'') : Keeps d d'' :=
  ⟨second.work.trans first.work, fun trail held =>
    second.directories trail (first.directories trail held)⟩

section

variable {wrote wrote' : ByteArray → Prop} {made made' : Prop} {node node' node'' : Option DiskNode}

theorem NodeChange.trans (first : NodeChange wrote made node node')
    (second : NodeChange wrote made node' node'') : NodeChange wrote made node node'' := by
  cases second with
  | same => exact first
  | @written _ content file due =>
    refine .written ?_ due
    rintro rfl
    cases first with
    | same => exact file rfl
    | written held _ => exact held rfl
  | made new =>
    cases first with
    | same => exact .made new

theorem NodeChange.mono (change : NodeChange wrote made node node')
    (writes : ∀ content, wrote content → wrote' content) (makes : made → made') :
    NodeChange wrote' made' node node' := by
  cases change with
  | same => exact .same node
  | written file due => exact .written file (writes _ due)
  | made new => exact .made (makes new)

end

section

variable {scratch scratch' : Trail → Prop} {wrote wrote' : Trail → ByteArray → Prop}
  {made made' : Trail → Prop} {d d' d'' : Disk}

theorem Changes.refl (d : Disk) : Changes scratch wrote made d d where
  work := rfl
  directories _ held := held
  nodes trail _ := .same (d.node? trail)

theorem Changes.trans (first : Changes scratch wrote made d d')
    (second : Changes scratch wrote made d' d'') : Changes scratch wrote made d d'' where
  toKeeps := first.toKeeps.trans second.toKeeps
  nodes trail clear := (first.nodes trail clear).trans (second.nodes trail clear)

theorem Changes.mono (changes : Changes scratch wrote made d d')
    (scratches : ∀ trail, scratch trail → scratch' trail)
    (writes : ∀ trail content, wrote trail content → wrote' trail content)
    (makes : ∀ trail, made trail → made' trail) : Changes scratch' wrote' made' d d' where
  toKeeps := changes.toKeeps
  nodes trail clear := (changes.nodes trail fun inside => clear (scratches trail inside)).mono
    (writes trail) (makes trail)

/-- Nothing becomes of a node that is neither scratch nor written to, nor made a directory. -/
theorem Changes.node?_eq (changes : Changes scratch wrote made d d') {trail : Trail}
    (clear : ¬ scratch trail) (unwritten : ∀ content, ¬ wrote trail content)
    (unmade : d.node? trail = none → ¬ made trail) : d'.node? trail = d.node? trail := by
  generalize before : d.node? trail = node at unmade ⊢
  generalize after : d'.node? trail = node'
  have change := changes.nodes trail clear
  rw [before, after] at change
  cases change with
  | same => rfl
  | written _ due => exact absurd due (unwritten _)
  | made new => exact absurd new (unmade rfl)

/-- A file that is neither scratch nor written to stays what it is. -/
theorem Changes.file_iff (changes : Changes scratch wrote made d d') {trail : Trail}
    (clear : ¬ scratch trail) (unwritten : ∀ content, ¬ wrote trail content) (content : ByteArray) :
    d'.node? trail = some (.file content) ↔ d.node? trail = some (.file content) := by
  generalize before : d.node? trail = node
  generalize after : d'.node? trail = node'
  have change := changes.nodes trail clear
  rw [before, after] at change
  cases change with
  | same => rfl
  | written _ due => exact absurd due (unwritten _)
  | made _ => simp

end

theorem lookup_cons (trail other : Trail) (node : DiskNode) (rest : List (Trail × DiskNode)) :
    ((trail, node) :: rest).lookup other =
      if other = trail then some node else rest.lookup other := by
  by_cases same : other = trail
  · simp [same]
  · simp [List.lookup_cons, same, beq_false_of_ne same]

theorem lookup_putNode (trail other : Trail) (node : DiskNode) (nodes : List (Trail × DiskNode)) :
    (putNode trail node nodes).lookup other =
      if other = trail then some node else nodes.lookup other := by
  induction nodes with
  | nil => rw [putNode, lookup_cons]
  | cons first rest ih =>
    obtain ⟨t, n⟩ := first
    unfold putNode
    split
    · rename_i here
      subst here
      by_cases same : other = t <;> simp [lookup_cons, same]
    · rename_i different
      rw [lookup_cons, lookup_cons, ih]
      by_cases here : other = t
      · subst here
        simp [different]
      · simp [here]

theorem lookup_filter_ne (trail other : Trail) (nodes : List (Trail × DiskNode)) :
    (nodes.filter fun entry => entry.1 ≠ trail).lookup other =
      if other = trail then none else nodes.lookup other := by
  induction nodes with
  | nil => simp
  | cons first rest ih =>
    obtain ⟨t, n⟩ := first
    by_cases erased : t = trail
    · rw [List.filter_cons_of_neg (by simpa using erased), ih, lookup_cons]
      by_cases here : other = trail <;> simp [here, erased]
    · rw [List.filter_cons_of_pos (by simpa using erased), lookup_cons, lookup_cons, ih]
      by_cases here : other = t
      · subst here
        simp [erased]
      · simp [here]

theorem node?_put (d : Disk) {trail : Trail} (named : trail ≠ []) (node : DiskNode)
    (other : Trail) :
    (d.put trail node).node? other = if other = trail then some node else d.node? other := by
  unfold node? put
  by_cases root : other = []
  · subst root
    simp [Ne.symm named]
  · simp [root, lookup_putNode]

theorem node?_erase (d : Disk) {trail : Trail} (named : trail ≠ []) (other : Trail) :
    (d.erase trail).node? other = if other = trail then none else d.node? other := by
  unfold node? erase
  by_cases root : other = []
  · subst root
    simp [Ne.symm named]
  · simp only [root, ↓reduceIte]
    exact lookup_filter_ne trail other d.nodes

/-- Where a path with a name leads, and what stands in front of the name. -/
theorem locate_named {d : Disk} {p : Path} {trail : Trail}
    (found : d.locate p = .ok (.named trail)) : trail = p.trailFrom d.work ∧ trail ≠ [] ∧
      ∃ front name, p.moves = front ++ [.into name] ∧ ∀ before inner,
        before ++ [.into inner] <+: front →
          d.node? (Path.lead (p.startFrom d.work) before ++ [inner]) = some .directory := by
  cases located found with
  | @named front name moves directories =>
    refine ⟨?_, by simp, front, name, moves, directories⟩
    rw [Path.trailFrom, moves, Path.lead_into]

/-- What a path with a name finds is the node there. A slash asks for a directory. -/
theorem find_named_iff {d : Disk} {p : Path} {goal : Trail}
    (reached : d.locate p = .ok (.named goal)) (node : DiskNode) :
    d.find p = .ok node ↔ d.node? goal = some node ∧
      ∀ content, node = .file content → p.endsWithSlash = false := by
  unfold find
  rw [reached]
  dsimp only [bind, Except.bind]
  split
  · rename_i none
    simp [none]
  · rename_i directory
    rw [directory, pure_ok]
    constructor
    · rintro rfl
      exact ⟨rfl, nofun⟩
    · rintro ⟨same, -⟩
      exact Option.some.inj same
  · rename_i content file
    rw [file]
    split
    · rename_i slash
      simp only [reduceCtorEq, false_iff]
      rintro ⟨same, plain⟩
      rw [plain content (Option.some.inj same).symm] at slash
      exact nomatch slash
    · rename_i plain
      rw [pure_ok]
      constructor
      · rintro rfl
        exact ⟨rfl, fun _ _ => Bool.eq_false_iff.mpr plain⟩
      · rintro ⟨same, -⟩
        exact Option.some.inj same

/-- A path that leads to a directory goes through directories. -/
theorem find_directory_passes {d : Disk} {p : Path} (found : d.find p = .ok .directory)
    {trail : Trail} (passes : p.Passes d.work trail) : d.node? trail = some .directory := by
  obtain ⟨target, reached, _⟩ := bind_ok.mp found
  cases target with
  | directory =>
    cases located reached with
    | directory directories => exact directories trail passes
  | named goal =>
    have last := ((find_named_iff reached _).mp found).1
    obtain ⟨rfl, -, front, name, moves, directories⟩ := locate_named reached
    obtain ⟨before, inner, le, rfl⟩ := passes
    rw [moves, List.prefix_concat_iff] at le
    rcases le with same | le
    · rw [← Path.lead_into, same, ← moves]
      exact last
    · exact directories before inner le

theorem find_directory_keeps {d d' : Disk} (keeps : Keeps d d') {p : Path}
    (found : d.find p = .ok .directory) : d'.find p = .ok .directory := by
  obtain ⟨target, reached, same⟩ := bind_ok.mp found
  cases target with
  | directory trail => exact bind_ok.mpr ⟨.directory trail, locate_keeps keeps reached, rfl⟩
  | named goal =>
    obtain ⟨held, plain⟩ := (find_named_iff reached _).mp found
    exact (find_named_iff (locate_keeps keeps reached) _).mpr ⟨keeps.directories goal held, plain⟩

theorem read_ok_iff {d : Disk} {p : Path} {content : ByteArray} :
    d.read p = .ok content ↔ d.find p = .ok (.file content) := by
  unfold read
  rw [bind_ok]
  constructor
  · rintro ⟨node, found, given⟩
    cases node with
    | directory => exact nomatch given
    | file content' =>
      obtain rfl := pure_ok.mp given
      exact found
  · intro found
    exact ⟨_, found, rfl⟩

theorem located_of_read {d : Disk} {p : Path} {content : ByteArray}
    (held : d.read p = .ok content) : d.locate p = .ok (.named (p.trailFrom d.work)) ∧
      d.node? (p.trailFrom d.work) = some (.file content) ∧ p.endsWithSlash = false := by
  have found := read_ok_iff.mp held
  obtain ⟨target, reached, same⟩ := bind_ok.mp found
  cases target with
  | directory => exact nomatch pure_ok.mp same
  | named goal =>
    obtain ⟨here, plain⟩ := (find_named_iff reached _).mp found
    obtain ⟨rfl, -⟩ := locate_named reached
    exact ⟨reached, here, plain content rfl⟩

/-- A path that led to a name leads to the file that is there later. -/
theorem read_of_node? {d d' : Disk} (keeps : Keeps d d') {p : Path} {goal : Trail}
    {content : ByteArray} (reached : d.locate p = .ok (.named goal))
    (plain : p.endsWithSlash = false) (held : d'.node? goal = some (.file content)) :
    d'.read p = .ok content :=
  read_ok_iff.mpr ((find_named_iff (locate_keeps keeps reached) _).mpr ⟨held, fun _ _ => plain⟩)

/-- A file that nothing touches is still read under its path. -/
theorem read_keeps {d d' : Disk} (keeps : Keeps d d') {p : Path} {content : ByteArray}
    (held : d.read p = .ok content)
    (same : d'.node? (p.trailFrom d.work) = d.node? (p.trailFrom d.work)) :
    d'.read p = .ok content := by
  obtain ⟨reached, here, plain⟩ := located_of_read held
  exact read_of_node? keeps reached plain (by rw [same, here])

/-- A directory is made where nothing was. -/
theorem makeDirectory_ok {d d' : Disk} {p : Path} (made : d.makeDirectory p = .ok d') :
    Changes (fun _ => False) (fun _ _ => False) (p.Passes d.work) d d' ∧
      d'.find p = .ok .directory := by
  obtain ⟨target, reached, made⟩ := bind_ok.mp made
  cases target with
  | directory => cases made
  | named goal =>
    obtain ⟨same, named, front, name, moves, _⟩ := locate_named reached
    cases new : d.node? goal with
    | some node => simp [new] at made
    | none =>
      simp only [new] at made
      obtain rfl := pure_ok.mp made
      have keeps : Keeps d (d.put goal .directory) := by
        refine ⟨rfl, fun trail held => ?_⟩
        rw [node?_put d named]
        split
        · rfl
        · exact held
      refine ⟨⟨keeps, fun trail _ => ?_⟩, ?_⟩
      · rw [node?_put d named]
        split
        · rename_i here
          subst here
          rw [new]
          refine .made ⟨front, name, moves ▸ List.prefix_refl _, ?_⟩
          rw [same, Path.trailFrom, moves, Path.lead_into]
        · exact .same _
      · refine (find_named_iff (locate_keeps keeps reached) _).mpr ⟨?_, fun _ => DiskNode.noConfusion⟩
        rw [node?_put d named, if_pos rfl]

theorem makeDirectory_present {d : Disk} {p : Path} (found : d.find p = .ok .directory) :
    d.makeDirectory p = .error .alreadyExists := by
  obtain ⟨target, reached, _⟩ := bind_ok.mp found
  unfold makeDirectory
  rw [reached]
  cases target with
  | directory => rfl
  | named goal =>
    have held := ((find_named_iff reached _).mp found).1
    dsimp only [bind, Except.bind]
    rw [held]

/-- A path whose file could be written leads to a name under which no directory is. -/
theorem writable_ok {d : Disk} {p : Path} {goal : Trail} {before : Option ByteArray}
    (ready : d.writable p = .ok (goal, before)) : goal = p.trailFrom d.work ∧ goal ≠ [] ∧
      d.locate p = .ok (.named goal) ∧ p.endsWithSlash = false ∧ d.node? goal ≠ some .directory := by
  obtain ⟨target, reached, ready⟩ := bind_ok.mp ready
  cases target with
  | directory => exact nomatch ready
  | named trail =>
    obtain ⟨same, named, -⟩ := locate_named reached
    dsimp only at ready
    split at ready
    · exact nomatch ready
    · rename_i plain
      split at ready
      · exact nomatch ready
      all_goals
        rename_i here
        obtain ⟨rfl, rfl⟩ := Prod.mk.inj (pure_ok.mp ready)
        exact ⟨same, named, reached, Bool.eq_false_iff.mpr plain, here ▸ nofun⟩

/-- A file could be written there, with the directories that there are. -/
def Writable (d : Disk) (p : Path) : Prop := ∃ place, d.writable p = .ok place

instance (d : Disk) (p : Path) : Decidable (Writable d p) :=
  decidable_of_iff ((d.writable p).isOk = true) <| by
    unfold Writable
    cases d.writable p <;> simp [Except.isOk, Except.toBool]

theorem writable_iff {d : Disk} {p : Path} : Writable d p ↔
    d.locate p = .ok (.named (p.trailFrom d.work)) ∧ p.endsWithSlash = false ∧
      d.node? (p.trailFrom d.work) ≠ some .directory := by
  constructor
  · rintro ⟨⟨goal, before⟩, ready⟩
    obtain ⟨rfl, -, found⟩ := writable_ok ready
    exact found
  · rintro ⟨reached, plain, free⟩
    unfold Writable writable
    rw [reached]
    simp only [bind, Except.bind, plain, Bool.false_eq_true, ↓reduceIte]
    split
    · rename_i directory
      exact absurd directory free
    · exact ⟨_, rfl⟩
    · exact ⟨_, rfl⟩

theorem write_ok {d d' : Disk} {p : Path} {content : ByteArray}
    (written : d.write p content = .ok d') : d'.work = d.work ∧
      d.node? (p.trailFrom d.work) ≠ some .directory ∧ ∀ trail, d'.node? trail =
        if trail = p.trailFrom d.work then some (.file content) else d.node? trail := by
  obtain ⟨⟨goal, before⟩, ready, written⟩ := bind_ok.mp written
  obtain rfl := pure_ok.mp written
  obtain ⟨rfl, named, -, -, free⟩ := writable_ok ready
  exact ⟨rfl, free, node?_put d named _⟩

theorem exists_write_iff {d : Disk} {p : Path} (content : ByteArray) :
    (∃ d', d.write p content = .ok d') ↔ Writable d p := by
  constructor
  · rintro ⟨d', written⟩
    obtain ⟨place, ready, _⟩ := bind_ok.mp written
    exact ⟨place, ready⟩
  · rintro ⟨place, ready⟩
    exact ⟨_, bind_ok.mpr ⟨place, ready, rfl⟩⟩

theorem keeps_of_write {d d' : Disk} {p : Path} {content : ByteArray}
    (written : d.write p content = .ok d') : Keeps d d' ∧ Keeps d' d := by
  obtain ⟨work, free, nodes⟩ := write_ok written
  refine ⟨⟨work, fun trail held => ?_⟩, work.symm, fun trail held => ?_⟩
  · have other : trail ≠ p.trailFrom d.work := by
      rintro rfl
      exact free held
    rw [nodes, if_neg other, held]
  · rw [nodes] at held
    split at held
    · exact nomatch held
    · exact held

/-- Writing one file does not change whether another one could be written. -/
theorem writable_of_write {d d' : Disk} {p other : Path} {content : ByteArray}
    (written : d.write p content = .ok d') (apart : other.trailFrom d.work ≠ p.trailFrom d.work) :
    Writable d' other ↔ Writable d other := by
  obtain ⟨work, -, nodes⟩ := write_ok written
  obtain ⟨keeps, back⟩ := keeps_of_write written
  rw [writable_iff, writable_iff, work, nodes, if_neg apart]
  exact and_congr_left fun _ => ⟨locate_keeps back, locate_keeps keeps⟩

theorem fileAt_ok {d : Disk} {p : Path} {trail : Trail} {content : ByteArray}
    (found : d.fileAt p = .ok (trail, content)) : trail = p.trailFrom d.work ∧ trail ≠ [] ∧
      d.node? trail = some (.file content) := by
  obtain ⟨target, reached, found⟩ := bind_ok.mp found
  cases target with
  | directory => exact nomatch found
  | named goal =>
    obtain ⟨rfl, named, -⟩ := locate_named reached
    cases here : d.node? (p.trailFrom d.work) with
    | none => simp [here] at found
    | some node =>
      cases node with
      | directory => simp [here] at found
      | file old =>
        simp only [here] at found
        obtain ⟨rfl, rfl⟩ := Prod.mk.inj (pure_ok.mp found)
        exact ⟨rfl, named, here⟩

theorem remove_ok {d d' : Disk} {p : Path} (removed : d.remove p = .ok d') :
    d'.work = d.work ∧ d.node? (p.trailFrom d.work) ≠ some .directory ∧ ∀ trail,
      d'.node? trail = if trail = p.trailFrom d.work then none else d.node? trail := by
  obtain ⟨⟨goal, content⟩, found, removed⟩ := bind_ok.mp removed
  obtain rfl := pure_ok.mp removed
  obtain ⟨rfl, named, here⟩ := fileAt_ok found
  refine ⟨rfl, ?_, node?_erase d named⟩
  rw [here]
  nofun

/-- The file that has just been written. -/
theorem fileAt_of_write {d d' : Disk} {p : Path} {content : ByteArray}
    (written : d.write p content = .ok d') :
    d'.fileAt p = .ok (p.trailFrom d.work, content) := by
  obtain ⟨-, -, nodes⟩ := write_ok written
  obtain ⟨reached, -⟩ := writable_iff.mp ((exists_write_iff content).mp ⟨d', written⟩)
  have held : d'.node? (p.trailFrom d.work) = some (.file content) := by rw [nodes, if_pos rfl]
  refine bind_ok.mpr ⟨_, locate_keeps (keeps_of_write written).1 reached, ?_⟩
  dsimp only
  rw [held]
  rfl

/-- A file that has just been written can be removed. -/
theorem remove_of_write {d d' : Disk} {p : Path} {content : ByteArray}
    (written : d.write p content = .ok d') : ∃ d'', d'.remove p = .ok d'' :=
  ⟨_, bind_ok.mpr ⟨_, fileAt_of_write written, rfl⟩⟩

/-- A file takes another name, under which no directory was. -/
theorem rename_ok {d d' : Disk} {source target : Path} (renamed : d.rename source target = .ok d') :
    ∃ content, d.node? (source.trailFrom d.work) = some (.file content) ∧ d'.work = d.work ∧
      d.locate target = .ok (.named (target.trailFrom d.work)) ∧ target.endsWithSlash = false ∧
      d.node? (target.trailFrom d.work) ≠ some .directory ∧ ∀ trail, d'.node? trail =
        if trail = target.trailFrom d.work then some (.file content)
        else if trail = source.trailFrom d.work then none
        else d.node? trail := by
  obtain ⟨⟨trail, content⟩, found, renamed⟩ := bind_ok.mp renamed
  obtain ⟨rfl, named, here⟩ := fileAt_ok found
  obtain ⟨place, reached, renamed⟩ := bind_ok.mp renamed
  cases place with
  | directory => exact nomatch renamed
  | named goal =>
    obtain ⟨rfl, some, -⟩ := locate_named reached
    dsimp only at renamed
    split at renamed
    · exact nomatch renamed
    · rename_i plain
      split at renamed
      · exact nomatch renamed
      · rename_i file
        obtain rfl := pure_ok.mp renamed
        refine ⟨content, here, rfl, reached, Bool.eq_false_iff.mpr plain, file, fun other => ?_⟩
        change ((d.erase _).put _ _).node? other = _
        rw [node?_put _ some, node?_erase _ named]

/-- A file can take any name under which one could be written. -/
theorem exists_rename_iff {d : Disk} {source : Path} {found : Trail × ByteArray}
    (here : d.fileAt source = .ok found) (target : Path) :
    (∃ d', d.rename source target = .ok d') ↔ Writable d target := by
  rw [writable_iff]
  constructor
  · rintro ⟨d', renamed⟩
    obtain ⟨_, _, _, reached, plain, free, _⟩ := rename_ok renamed
    exact ⟨reached, plain, free⟩
  · rintro ⟨reached, plain, free⟩
    unfold rename
    rw [here, reached]
    simp only [bind, Except.bind, plain, Bool.false_eq_true, ↓reduceIte]
    exact ⟨_, rfl⟩

end Disk

end MockData
