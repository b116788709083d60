import MockData.Storage.Basic
import MockData.Storage.Disk
import MockData.Proofs.Except
import MockData.Proofs.Text.Split

/-!
# Where paths lead

A path stands for one trail in a working directory, whatever a disk holds there: `Path.trailFrom`.
A walk over a disk either fails or ends at that trail (`Disk.locate_named`), so two paths name the
same file exactly if their trails are the same. The paths that are made from a path, its parent and
its siblings, are known by their moves.
-/

namespace MockData

namespace PathStep

def after (trail : Trail) : PathStep → Trail
  | .here => trail
  | .up => trail.dropLast
  | .into name => trail ++ [name]

def Plain : PathStep → Prop
  | .here => False
  | .up => True
  | .into name => '/' ∉ name.toList ∧ name ≠ "" ∧ name ≠ "." ∧ name ≠ ".."

end PathStep

namespace Path

def lead (trail : Trail) (steps : List PathStep) : Trail := steps.foldl PathStep.after trail

def startFrom (work : Trail) (p : Path) : Trail := if p.isAbsolute then [] else work

/-- The trail that a path stands for in a working directory. -/
def trailFrom (work : Trail) (p : Path) : Trail := lead (p.startFrom work) p.moves

/-- A path goes into the names at these trails, its last name included. -/
def Passes (work : Trail) (p : Path) (trail : Trail) : Prop :=
  ∃ front name, front ++ [.into name] <+: p.moves ∧
    trail = lead (p.startFrom work) front ++ [name]

def temporary? (p : Path) : Option Path :=
  p.fileName?.map fun name => p.sibling (Storage.temporaryName name)

theorem lead_append (trail : Trail) (front back : List PathStep) :
    lead trail (front ++ back) = lead (lead trail front) back := by
  simp [lead]

theorem lead_into (trail : Trail) (front : List PathStep) (name : String) :
    lead trail (front ++ [.into name]) = lead trail front ++ [name] := by
  rw [lead_append]
  rfl

theorem lead_moves (trail : Trail) (steps : List PathStep) :
    lead trail (steps.filter fun step => step ≠ .here) = lead trail steps := by
  induction steps generalizing trail with
  | nil => rfl
  | cons step rest ih =>
    cases step with
    | here => simpa [lead, PathStep.after] using ih trail
    | up => simpa [lead] using ih _
    | into name => simpa [lead] using ih _

theorem stepOf_eq_into {part : List Char} {name : String}
    (step : stepOf part = some (.into name)) :
    name = String.ofList part ∧ part ≠ [] ∧ part ≠ ['.'] ∧ part ≠ ['.', '.'] := by
  unfold stepOf at step
  split at step
  · exact nomatch step
  · split at step
    · exact nomatch step
    · split at step
      · exact nomatch step
      · rename_i some one two
        refine ⟨?_, some, one, two⟩
        simpa using step.symm

theorem plain_of_mem_moves {p : Path} {step : PathStep} (member : step ∈ p.moves) :
    step.Plain := by
  obtain ⟨taken, moves⟩ := List.mem_filter.mp member
  obtain ⟨part, piece, read⟩ := List.mem_filterMap.mp taken
  cases step with
  | here => simp at moves
  | up => trivial
  | into name =>
    obtain ⟨rfl, some, one, two⟩ := stepOf_eq_into read
    refine ⟨by simpa using Text.not_mem_of_mem_split piece, ?_, ?_, ?_⟩
    all_goals
      rw [ne_eq, ← String.toList_inj]
      simpa

theorem stepOf_stepText {step : PathStep} (plain : step.Plain) :
    stepOf (stepText step).toList = some step := by
  cases step with
  | here => exact plain.elim
  | up => rfl
  | into name =>
    obtain ⟨_, some, one, two⟩ := plain
    rw [ne_eq, ← String.toList_inj] at some one two
    simp_all [stepOf, stepText]

theorem slash_not_mem_stepText {step : PathStep} (plain : step.Plain) :
    '/' ∉ (stepText step).toList := by
  cases step with
  | here => exact plain.elim
  | up => decide
  | into name => exact plain.1

theorem filterMap_stepText {moves : List PathStep} (plain : ∀ step ∈ moves, step.Plain) :
    (moves.map fun step => (stepText step).toList).filterMap stepOf = moves := by
  induction moves with
  | nil => rfl
  | cons first rest ih =>
    rw [List.map_cons, List.filterMap_cons_some (stepOf_stepText (plain first List.mem_cons_self)),
      ih fun step member => plain step (List.mem_cons_of_mem _ member)]

theorem steps_ofSteps (absolute : Bool) {moves : List PathStep}
    (plain : ∀ step ∈ moves, step.Plain) : (ofSteps absolute moves).steps = moves := by
  have parts : (Text.split '/' (['/'].intercalate (moves.map fun step => (stepText step).toList))
      ).filterMap stepOf = moves := by
    by_cases none : moves = []
    · subst none
      rfl
    · rw [Text.split_intercalate (by simpa using none), filterMap_stepText plain]
      intro part member
      obtain ⟨step, inside, rfl⟩ := List.mem_map.mp member
      exact slash_not_mem_stepText (plain step inside)
  cases absolute with
  | false => simpa [steps, ofSteps, Function.comp_def] using parts
  | true => simpa [steps, ofSteps, Function.comp_def, Text.split, stepOf] using parts

theorem moves_ofSteps (absolute : Bool) {moves : List PathStep}
    (plain : ∀ step ∈ moves, step.Plain) : (ofSteps absolute moves).moves = moves := by
  rw [Path.moves, steps_ofSteps absolute plain, List.filter_eq_self]
  intro step member
  have := plain step member
  cases step with
  | here => exact this.elim
  | up => rfl
  | into name => rfl

theorem isAbsolute_ofSteps (absolute : Bool) {moves : List PathStep}
    (plain : ∀ step ∈ moves, step.Plain) : (ofSteps absolute moves).isAbsolute = absolute := by
  cases absolute with
  | true => simp [isAbsolute, ofSteps]
  | false =>
    cases moves with
    | nil => rfl
    | cons first rest =>
      have head := plain first List.mem_cons_self
      have some : (stepText first).toList ≠ [] := fun none => by
        have read := stepOf_stepText head
        rw [none] at read
        exact nomatch read
      obtain ⟨c, others, text⟩ := List.exists_cons_of_ne_nil some
      have different : c ≠ '/' := fun slash =>
        slash_not_mem_stepText head (by rw [text, slash]; exact List.mem_cons_self)
      cases rest with
      | nil => simpa [isAbsolute, ofSteps, text] using different
      | cons next more =>
        simpa [isAbsolute, ofSteps, text, List.intercalate_cons_cons] using different

theorem parent?_eq {p parent : Path} (given : p.parent? = some parent) :
    parent = ofSteps p.isAbsolute p.moves.dropLast := by
  unfold parent? at given
  split at given
  · exact nomatch given
  · rename_i one
    split at given
    · rename_i absolute
      rw [← Option.some.inj given, one, absolute]
      rfl
    · exact nomatch given
  · exact (Option.some.inj given).symm

theorem plain_of_mem_dropLast {p : Path} {step : PathStep} (member : step ∈ p.moves.dropLast) :
    step.Plain :=
  plain_of_mem_moves (List.dropLast_subset _ member)

theorem moves_parent {p parent : Path} (given : p.parent? = some parent) :
    parent.moves = p.moves.dropLast ∧ ∀ work, parent.startFrom work = p.startFrom work := by
  have plain : ∀ step ∈ p.moves.dropLast, step.Plain := fun _ => plain_of_mem_dropLast
  rw [parent?_eq given]
  refine ⟨moves_ofSteps _ plain, fun work => ?_⟩
  rw [startFrom, isAbsolute_ofSteps _ plain, startFrom]

theorem fileName?_eq_some_iff {p : Path} {name : String} :
    p.fileName? = some name ↔ ∃ front, p.moves = front ++ [.into name] := by
  unfold fileName?
  rw [← List.getLast?_eq_some_iff]
  split
  · rename_i other last
    rw [last]
    simp
  · rename_i different
    simp only [reduceCtorEq, false_iff]
    exact different name

theorem trailFrom_sibling {p : Path} {front : List PathStep} {name other : String}
    (moves : p.moves = front ++ [.into name]) (plain : (PathStep.into other).Plain)
    (work : Trail) :
    (p.sibling other).trailFrom work = lead (p.startFrom work) front ++ [other] := by
  have plain : ∀ step ∈ p.moves.dropLast ++ [.into other], step.Plain := by
    intro step member
    rcases List.mem_append.mp member with inside | last
    · exact plain_of_mem_dropLast inside
    · rw [List.mem_singleton.mp last]
      exact plain
  rw [trailFrom, startFrom, sibling, moves_ofSteps _ plain, isAbsolute_ofSteps _ plain, moves,
    List.dropLast_concat, lead_into, startFrom]

theorem toList_temporaryName (name : String) :
    (Storage.temporaryName name).toList = '.' :: (name.toList ++ ['.', 't', 'm', 'p']) := by
  simp [Storage.temporaryName]

/-- The name of a temporary file is longer than the name it is made from. -/
theorem length_temporaryName (name : String) :
    (Storage.temporaryName name).toList.length = name.toList.length + 5 := by
  rw [toList_temporaryName]
  simp

theorem temporaryName_ne (name : String) : Storage.temporaryName name ≠ name := by
  intro same
  have longer := length_temporaryName name
  rw [same] at longer
  omega

theorem plain_temporaryName {name : String} (plain : (PathStep.into name).Plain) :
    (PathStep.into (Storage.temporaryName name)).Plain := by
  have longer := length_temporaryName name
  refine ⟨?_, ?_, ?_, ?_⟩
  · have inside := plain.1
    rw [toList_temporaryName]
    simp_all
  all_goals
    intro same
    rw [same] at longer
    simp at longer

theorem lead_names (trail : Trail) (names : List String) :
    lead trail (names.map .into) = trail ++ names := by
  induction names generalizing trail with
  | nil => simp [lead]
  | cons name rest ih =>
    have first : lead trail ((name :: rest).map .into) =
        lead (trail ++ [name]) (rest.map .into) := rfl
    rw [first, ih, List.append_assoc]
    rfl

theorem steps_append (front back : List Char) :
    (Path.mk (String.ofList (front ++ '/' :: back))).steps =
      (Path.mk (String.ofList front)).steps ++ (Path.mk (String.ofList back)).steps := by
  simp [steps, Text.split_append]

/-- A relative path below a directory: its steps follow those of the directory. -/
theorem steps_join {p : Path} {below : String} (relative : below.toList.head? ≠ some '/') :
    (p.join below).steps = p.steps ++ (Path.mk below).steps := by
  unfold join
  split
  · rename_i bare
    have empty : p.text = "" := by simpa [relative] using bare
    simp [steps, empty, Text.split, stepOf]
  · split
    · rename_i slash
      obtain ⟨front, text⟩ := List.getLast?_eq_some_iff.mp (of_decide_eq_true slash)
      have longer : p.text ++ below = String.ofList (front ++ '/' :: below.toList) := by
        rw [← String.toList_inj]
        simp [text]
      have same : p = ⟨String.ofList (front ++ '/' :: [])⟩ := by
        rw [← text, String.ofList_toList]
      conv => rhs; rw [same]
      rw [longer, steps_append, steps_append, List.append_assoc]
      simp [steps, Text.split, stepOf]
    · have longer : p.text ++ "/" ++ below =
          String.ofList (p.text.toList ++ '/' :: below.toList) := by
        rw [← String.toList_inj]
        simp
      rw [longer, steps_append, String.ofList_toList, String.ofList_toList]

theorem isAbsolute_join {p : Path} {below : String} (relative : below.toList.head? ≠ some '/') :
    (p.join below).isAbsolute = p.isAbsolute := by
  by_cases empty : p.text = ""
  · simp [join, empty, isAbsolute, relative]
  · rw [← String.toList_inj] at empty
    obtain ⟨c, rest, text⟩ := List.exists_cons_of_ne_nil empty
    unfold join
    split
    · simp_all
    · split <;> simp [isAbsolute, text]

theorem moves_join {p : Path} {below : String} (relative : below.toList.head? ≠ some '/') :
    (p.join below).moves = p.moves ++ (Path.mk below).moves := by
  rw [moves, steps_join relative, List.filter_append]
  rfl

theorem join_absolute {p : Path} {below : String} (absolute : below.toList.head? = some '/') :
    p.join below = ⟨below⟩ := by
  simp [join, absolute]

/-- The temporary file is in the same directory under a name of its own. -/
theorem trailFrom_temporary {p temporary : Path} (given : p.temporary? = some temporary)
    (work : Trail) : ∃ front name, p.moves = front ++ [.into name] ∧
      temporary.trailFrom work = lead (p.startFrom work) front ++ [Storage.temporaryName name] := by
  obtain ⟨name, named, rfl⟩ := Option.map_eq_some_iff.mp given
  obtain ⟨front, moves⟩ := fileName?_eq_some_iff.mp named
  have plain : (PathStep.into name).Plain := plain_of_mem_moves (p := p) (by simp [moves])
  exact ⟨front, name, moves, trailFrom_sibling moves (plain_temporaryName plain) work⟩

theorem trailFrom_temporary_ne {p temporary : Path} (given : p.temporary? = some temporary)
    (work : Trail) : temporary.trailFrom work ≠ p.trailFrom work := by
  obtain ⟨front, name, moves, trail⟩ := trailFrom_temporary given work
  rw [trail, trailFrom, moves, lead_into]
  intro same
  exact temporaryName_ne name (List.cons.inj (List.append_cancel_left same)).1

end Path

namespace Disk

theorem enter_ok {d : Disk} {trail goal : Trail} (entered : d.enter trail = .ok goal) :
    goal = trail ∧ d.node? trail = some .directory := by
  unfold enter at entered
  split at entered
  · rename_i found
    exact ⟨(Except.ok.inj entered).symm, found⟩
  · exact nomatch entered
  · exact nomatch entered

theorem below_ok {trail goal : Trail} {name : String} (reached : below trail name = .ok goal) :
    goal = trail ++ [name] := by
  unfold below at reached
  split at reached
  · exact nomatch reached
  · exact (Except.ok.inj reached).symm

theorem walk_into_ok {d : Disk} {trail goal : Trail} {name : String} {rest : List PathStep}
    (walked : d.walk trail (.into name :: rest) = .ok goal) :
    d.node? (trail ++ [name]) = some .directory ∧ d.walk (trail ++ [name]) rest = .ok goal := by
  rw [walk] at walked
  obtain ⟨next, reached, walked⟩ := bind_ok.mp walked
  obtain ⟨inside, entered, walked⟩ := bind_ok.mp walked
  obtain rfl := below_ok reached
  obtain ⟨rfl, found⟩ := enter_ok entered
  exact ⟨found, walked⟩

theorem walk_eq_lead {d : Disk} {trail goal : Trail} {steps : List PathStep}
    (walked : d.walk trail steps = .ok goal) : goal = Path.lead trail steps := by
  induction steps generalizing trail with
  | nil => exact (Except.ok.inj walked).symm
  | cons step rest ih =>
    cases step with
    | here | up =>
      rw [walk] at walked
      exact ih walked
    | into name => exact ih (walk_into_ok walked).2

/-- A walk goes through directories only. -/
theorem walk_passes {d : Disk} {trail goal : Trail} {steps : List PathStep}
    (walked : d.walk trail steps = .ok goal) {front : List PathStep} {name : String}
    (le : front ++ [.into name] <+: steps.filter fun step => step ≠ .here) :
    d.node? (Path.lead trail front ++ [name]) = some .directory := by
  induction steps generalizing trail front with
  | nil => simp at le
  | cons step rest ih =>
    cases step with
    | here =>
      rw [walk] at walked
      exact ih walked (by simpa using le)
    | up =>
      rw [walk] at walked
      cases front with
      | nil => simp at le
      | cons first others =>
        obtain ⟨rfl, le⟩ : first = .up ∧ _ := by simpa using le
        exact ih walked (by simpa using le)
    | into n =>
      obtain ⟨found, walked⟩ := walk_into_ok walked
      cases front with
      | nil =>
        obtain rfl : name = n := by simpa using le
        exact found
      | cons first others =>
        obtain ⟨rfl, le⟩ : first = .into n ∧ _ := by simpa using le
        exact ih walked (by simpa using le)

/-- A disk with every directory of another one, seen from the same place. -/
structure Keeps (d d' : Disk) : Prop where
  work : d'.work = d.work
  directories : ∀ trail, d.node? trail = some .directory → d'.node? trail = some .directory

theorem walk_keeps {d d' : Disk} (keeps : Keeps d d') {trail goal : Trail}
    {steps : List PathStep} (walked : d.walk trail steps = .ok goal) :
    d'.walk trail steps = .ok goal := by
  induction steps generalizing trail with
  | nil => exact walked
  | cons step rest ih =>
    cases step with
    | here | up =>
      rw [walk] at walked ⊢
      exact ih walked
    | into name =>
      rw [walk] at walked ⊢
      obtain ⟨next, reached, onward⟩ := bind_ok.mp walked
      obtain ⟨inside, entered, behind⟩ := bind_ok.mp onward
      obtain ⟨rfl, found⟩ := enter_ok entered
      refine bind_ok.mpr ⟨inside, reached, bind_ok.mpr ⟨inside, ?_, ih behind⟩⟩
      rw [enter, keeps.directories inside found]

/-- Where a path ends: at a name in a directory, or at a directory that is reached without one. -/
inductive Located (d : Disk) (p : Path) : Target → Prop where
  | named {front : List PathStep} {name : String} (moves : p.moves = front ++ [.into name])
      (directories : ∀ before inner, before ++ [.into inner] <+: front →
        d.node? (Path.lead (p.startFrom d.work) before ++ [inner]) = some .directory) :
      Located d p (.named (Path.lead (p.startFrom d.work) front ++ [name]))
  | directory {trail : Trail}
      (directories : ∀ passed, p.Passes d.work passed → d.node? passed = some .directory) :
      Located d p (.directory trail)

theorem located {d : Disk} {p : Path} {target : Target} (found : d.locate p = .ok target) :
    Located d p target := by
  have start : d.start p = p.startFrom d.work := rfl
  unfold locate at found
  split at found
  · exact nomatch found
  · split at found
    · exact nomatch found
    · split at found
      · exact nomatch found
      · split at found
        · rename_i none
          rw [List.getLast?_eq_none_iff] at none
          obtain rfl := Except.ok.inj found
          refine .directory ?_
          rintro _ ⟨front, name, le, -⟩
          simp [Path.moves, none] at le
        · rename_i last ends
          obtain ⟨front, steps⟩ := List.getLast?_eq_some_iff.mp ends
          obtain ⟨trail, walked, found⟩ := bind_ok.mp found
          rw [steps, List.dropLast_concat, start] at walked
          obtain rfl := walk_eq_lead walked
          cases last with
          | into name =>
            obtain ⟨_, reached, found⟩ := bind_ok.mp found
            obtain rfl := below_ok reached
            obtain rfl := pure_ok.mp found
            rw [← Path.lead_moves]
            refine .named (by simp [Path.moves, steps]) fun before inner le => ?_
            exact walk_passes walked le
          | here =>
            obtain rfl := pure_ok.mp found
            refine .directory ?_
            rintro _ ⟨before, name, le, rfl⟩
            exact walk_passes walked (by simpa [Path.moves, steps] using le)
          | up =>
            obtain rfl := pure_ok.mp found
            refine .directory ?_
            rintro _ ⟨before, name, le, rfl⟩
            refine walk_passes walked ?_
            have moves : p.moves = (front.filter fun step => step ≠ .here) ++ [.up] := by
              simp [Path.moves, steps]
            rw [moves, List.prefix_concat_iff] at le
            exact le.resolve_left fun same => by simpa using List.append_inj_right' same rfl

theorem locate_keeps {d d' : Disk} (keeps : Keeps d d') {p : Path} {target : Target}
    (found : d.locate p = .ok target) : d'.locate p = .ok target := by
  have start : d'.start p = d.start p := by simp [Disk.start, keeps.work]
  unfold locate at found ⊢
  split at found
  · exact nomatch found
  · split at found
    · exact nomatch found
    · split at found
      · exact nomatch found
      · rename_i clean short named
        rw [if_neg clean, if_neg short, if_neg named]
        split at found
        · exact found
        · obtain ⟨trail, walked, found⟩ := bind_ok.mp found
          rw [start]
          exact bind_ok.mpr ⟨trail, walk_keeps keeps walked, found⟩

end Disk

end MockData
