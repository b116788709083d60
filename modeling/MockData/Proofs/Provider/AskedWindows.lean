import Mathlib.Algebra.Ring.Int.Defs
import MockData.Proofs.Provider.Builtin
import MockData.Proofs.Provider.Rejection
import MockData.Proofs.Provider.Windows

/-!
# Windows that are asked for

What a call of `date.between`, `date.past`, `date.recent` or `date.future` asks for, said in
nanoseconds: from which instant to which. `asked_window` says when such a call fails, what it shows
otherwise, and that it may show all of this. Bounds in leap seconds are left aside, so that every
time is known by its instant.
-/

namespace MockData

namespace Dates

open Timestamp

def windowPaths : List String := ["date.between", "date.past", "date.recent", "date.future"]

def namedTimes (c : RecordContext) (path : String) (a : Arguments) : List Timestamp :=
  if path = "date.between" then (a.timestamp? "from").toList ++ (a.timestamp? "to").toList
  else [referenceOf c.reference a]

def amount (a : Arguments) (key : String) : Nat := ((a.count? key).getD 1).toNat

inductive Asks (c : RecordContext) (path : String) (a : Arguments) : Int → Int → Prop where
  | between (named : path = "date.between") {start stop : Timestamp}
      (first : a.timestamp? "from" = some start) (last : a.timestamp? "to" = some stop) :
      Asks c path a start.instant stop.instant
  | past (named : path = "date.past") : Asks c path a
      ((referenceOf c.reference a).instant - (amount a "years" * 365 : Nat) * nanosPerDay)
      (referenceOf c.reference a).instant
  | recent (named : path = "date.recent") : Asks c path a
      ((referenceOf c.reference a).instant - amount a "days" * nanosPerDay)
      (referenceOf c.reference a).instant
  | future (named : path = "date.future") : Asks c path a (referenceOf c.reference a).instant
      ((referenceOf c.reference a).instant + (amount a "years" * 365 : Nat) * nanosPerDay)

def InCalendar (start stop : Int) : Prop :=
  Date.firstDay * nanosPerDay ≤ start ∧ stop < (Date.lastDay + 1) * nanosPerDay

def OutOfRange (start stop : Int) : Prop :=
  stop < start ∨ 2 ^ 63 * nanosPerMilli ≤ stop - start ∨ ¬ InCalendar start stop

theorem inRange_iff {start stop : Int} : ¬ OutOfRange start stop ↔
    start ≤ stop ∧ stop - start < 2 ^ 63 * nanosPerMilli ∧ InCalendar start stop := by
  unfold OutOfRange InCalendar
  omega

def Decides (verdict : Except Rejection (Timestamp × Timestamp)) (start stop : Int) : Prop :=
  (OutOfRange start stop ∧ ∃ reason, verdict = .error (.because reason)) ∨
    (¬ OutOfRange start stop ∧ verdict = .ok (ofInstant start, ofInstant stop))

variable {c : RecordContext} {args : Option Json} {a : Arguments}

/-! ### Bounds that are given -/

theorem calendar_short : (Date.lastDay + 1) * nanosPerDay - Date.firstDay * nanosPerDay <
    2 ^ 63 * nanosPerMilli := by
  decide +kernel

/-- Between two times of the calendar only their order counts. -/
theorem outOfRange_iff {start stop : Timestamp} (plain : ¬ start.InLeap) (other : ¬ stop.InLeap)
    (first : start.isRepresentable) (last : stop.isRepresentable) :
    OutOfRange start.instant stop.instant ↔ stop.instant < start.instant := by
  rw [eq_ofInstant plain, ofInstant_representable] at first
  rw [eq_ofInstant other, ofInstant_representable] at last
  have short := calendar_short
  unfold OutOfRange InCalendar
  omega

theorem exists_bounds (accepted : Arguments.read betweenParameters args = .ok a) :
    ∃ start stop, a.timestamp? "from" = some start ∧ a.timestamp? "to" = some stop := by
  obtain ⟨given, rfl, rfl, _, required⟩ := Arguments.read_ok accepted
  cases given with
  | none => exact nomatch required
  | some members =>
    have present {p : Parameter} := Arguments.hasKey_of_checkRequired (p := p) required
    have given : ∃ start, Arguments.timestamp? ⟨members⟩ "from" = some start :=
      Arguments.exists_timestamp accepted rfl (present List.mem_cons_self rfl)
    have other : ∃ stop, Arguments.timestamp? ⟨members⟩ "to" = some stop :=
      Arguments.exists_timestamp accepted rfl (present (.tail _ List.mem_cons_self) rfl)
    obtain ⟨start, first⟩ := given
    obtain ⟨stop, last⟩ := other
    exact ⟨start, stop, first, last⟩

variable {σ : Type} [RandomSource σ]

theorem between_decides (accepted : Arguments.read betweenParameters args = .ok a)
    {start stop : Timestamp} (first : a.timestamp? "from" = some start)
    (last : a.timestamp? "to" = some stop) (plain : ¬ start.InLeap) (other : ¬ stop.InLeap) :
    ∃ verdict, (between : Provider σ) c args =
        Provider.carryOut "date.between" drawWindow verdict ∧
      Decides verdict start.instant stop.instant := by
  refine ⟨_, windowed_accepted accepted, ?_⟩
  rw [first, last]
  dsimp only
  have ordered := le_ofInstant start.instant stop.instant
  rw [← eq_ofInstant plain, ← eq_ofInstant other] at ordered
  unfold Decides
  rw [outOfRange_iff plain other (Arguments.timestamp?_some first)
    (Arguments.timestamp?_some last), ← eq_ofInstant plain, ← eq_ofInstant other]
  split
  · rename_i inOrder
    exact .inr ⟨Int.not_lt.mpr (ordered.mp inOrder), rfl⟩
  · rename_i turned
    exact .inl ⟨Int.not_le.mp (mt ordered.mpr turned), _, rfl⟩

/-! ### Bounds that lie a span apart -/

theorem shift?_ofInstant (n days : Int) : shift? (ofInstant n) days =
    if (ofInstant (n + days * nanosPerDay)).isRepresentable then
      some (ofInstant (n + days * nanosPerDay)) else none := by
  rw [shift?, addDays_ofInstant]

def boundsOf : Direction → Int → Int → Int × Int
  | .past, reference, span => (reference - span, reference)
  | .future, reference, span => (reference, reference + span)

theorem span?_eq (unit : SpanUnit) (amount : UInt64) : unit.span? amount =
    if amount.toNat * unit.lengthInDays * 86400000 < 2 ^ 63 then
      some (amount.toNat * unit.lengthInDays) else none := rfl

theorem boundsOf_length (direction : Direction) (reference span : Int) :
    (boundsOf direction reference span).2 - (boundsOf direction reference span).1 = span := by
  cases direction <;> dsimp only [boundsOf] <;> omega

theorem window?_ofInstant (direction : Direction) {reference : Int} (days : Nat)
    (known : (ofInstant reference).isRepresentable) (window : Timestamp × Timestamp) :
    let bounds := boundsOf direction reference (days * nanosPerDay)
    window? direction (ofInstant reference) days = some window ↔
      InCalendar bounds.1 bounds.2 ∧ (ofInstant bounds.1, ofInstant bounds.2) = window := by
  rw [ofInstant_representable] at known
  have forward : 0 ≤ (days : Int) * nanosPerDay := by
    unfold nanosPerDay nanosPerSecond
    omega
  have backward : reference + -days * nanosPerDay = reference - days * nanosPerDay := by
    rw [Int.neg_mul, Int.sub_eq_add_neg]
  cases direction with
  | past =>
    simp only [window?, boundsOf, shift?_ofInstant, backward, Option.map_eq_some_iff,
      Option.ite_none_right_eq_some, ofInstant_representable]
    constructor
    · rintro ⟨start, ⟨inside, same⟩, rfl⟩
      exact ⟨⟨inside.1, known.2⟩, by rw [Option.some.inj same]⟩
    · rintro ⟨inside, rfl⟩
      exact ⟨_, ⟨⟨inside.1, by omega⟩, rfl⟩, rfl⟩
  | future =>
    simp only [window?, boundsOf, shift?_ofInstant, Option.map_eq_some_iff,
      Option.ite_none_right_eq_some, ofInstant_representable]
    constructor
    · rintro ⟨stop, ⟨inside, same⟩, rfl⟩
      exact ⟨⟨known.1, inside.2⟩, by rw [Option.some.inj same]⟩
    · rintro ⟨inside, rfl⟩
      exact ⟨_, ⟨⟨by omega, inside.2⟩, rfl⟩, rfl⟩

def spanDays (unit : SpanUnit) (a : Arguments) : Nat :=
  ((a.count? unit.key).getD 1).toNat * unit.lengthInDays

theorem relative_decides {path : String} (direction : Direction) (unit : SpanUnit)
    (accepted : Arguments.read (relativeParameters unit) args = .ok a)
    (known : c.reference.isRepresentable) (plain : ¬ (referenceOf c.reference a).InLeap) :
    let bounds := boundsOf direction (referenceOf c.reference a).instant
      (spanDays unit a * nanosPerDay)
    ∃ verdict, (relative path direction unit : Provider σ) c args =
        Provider.carryOut path drawWindow verdict ∧ Decides verdict bounds.1 bounds.2 := by
  dsimp only
  have inside := referenceOf_representable known a
  have reach := window?_ofInstant direction (spanDays unit a) (eq_ofInstant plain ▸ inside)
  have length := boundsOf_length direction (referenceOf c.reference a).instant
    (spanDays unit a * nanosPerDay)
  rw [← eq_ofInstant plain] at reach
  dsimp only at reach
  generalize boundsOf direction (referenceOf c.reference a).instant _ = bounds at *
  have long : 2 ^ 63 * nanosPerMilli ≤ bounds.2 - bounds.1 ↔
      ¬ spanDays unit a * 86400000 < 2 ^ 63 := by
    rw [length]
    unfold nanosPerMilli nanosPerDay nanosPerSecond
    omega
  have inOrder : bounds.1 ≤ bounds.2 := by
    unfold nanosPerDay nanosPerSecond at length
    omega
  refine ⟨_, windowed_accepted accepted, ?_⟩
  unfold Decides
  rw [span?_eq, ← spanDays]
  split
  · rename_i span
    split at span
    · exact nomatch span
    · rename_i tooLong
      exact .inl ⟨.inr (.inl (long.mpr tooLong)), _, rfl⟩
  · rename_i days span
    split at span
    · rename_i short
      cases span
      split
      · rename_i none
        refine .inl ⟨?_, _, rfl⟩
        exact .inr (.inr fun inside => nomatch none.symm.trans ((reach _).mpr ⟨inside, rfl⟩))
      · rename_i window found
        obtain ⟨within, rfl⟩ := (reach _).mp found
        have fits : bounds.2 - bounds.1 < 2 ^ 63 * nanosPerMilli :=
          Int.not_le.mp fun tooLong => long.mp tooLong short
        exact .inr ⟨inRange_iff.mpr ⟨inOrder, fits, within⟩, rfl⟩
    · exact nomatch span

/-! ### What is shown of a window -/

/-- The instant some milliseconds after a start, as its text shows it. -/
def shownAfter (start : Int) (millis : Nat) : Int := wholeMillis (start + millis * nanosPerMilli)

theorem shownAfter_bounds {start stop : Int} {millis : Nat}
    (within : millis ≤ (stop - start) / nanosPerMilli) :
    wholeMillis start ≤ shownAfter start millis ∧ shownAfter start millis ≤ stop := by
  unfold shownAfter wholeMillis nanosPerMilli at *
  omega

section

variable {start stop : Int}

theorem within_of_inRange (inRange : ¬ OutOfRange start stop) {millis : Nat} :
    millis ≤ millisBetween (ofInstant start) (ofInstant stop) ↔
      millis ≤ (stop - start) / nanosPerMilli := by
  obtain ⟨ordered, -, -⟩ := inRange_iff.mp inRange
  rw [millisBetween_ofInstant]
  unfold nanosPerMilli
  omega

theorem drawWindow_shows (inRange : ¬ OutOfRange start stop) {millis : Nat}
    (within : millis ≤ (stop - start) / nanosPerMilli) {s : σ}
    (drawn : (instantBetween (ofInstant start) (ofInstant stop) s).1 =
      (ofInstant start).addMillis millis) :
    (drawWindow (ofInstant start, ofInstant stop) s).1 =
      .ok (.string (ofInstant (shownAfter start millis)).iso) := by
  obtain ⟨-, -, inside⟩ := inRange_iff.mp inRange
  rw [drawWindow_apply]
  dsimp only
  rw [drawn, addMillis_ofInstant, if_pos, shownAfter, ← cutToMillis_ofInstant, iso_cutToMillis]
  rw [ofInstant_representable]
  unfold InCalendar at inside
  unfold nanosPerMilli at *
  omega

/-- A call whose window is out of range is invalid. Every other one shows an instant of it. -/
theorem carryOut_shows {path : String} {verdict : Except Rejection (Timestamp × Timestamp)}
    (decides : Decides verdict start stop) (s : σ) :
    (OutOfRange start stop ∧ ∃ reason, Provider.carryOut path drawWindow verdict s =
        (.error (.invalid path (.refused reason)), s)) ∨
      (¬ OutOfRange start stop ∧ ∃ millis : Nat, millis ≤ (stop - start) / nanosPerMilli ∧
        (Provider.carryOut path drawWindow verdict s).1 =
          .ok (.string (ofInstant (shownAfter start millis)).iso)) := by
  rcases decides with ⟨outOfRange, reason, rfl⟩ | ⟨inRange, rfl⟩
  · exact .inl ⟨outOfRange, _, rfl⟩
  · obtain ⟨millis, within, drawn⟩ := instantBetween_spec (ofInstant start) (ofInstant stop) s
    rw [within_of_inRange inRange] at within
    exact .inr ⟨inRange, millis, within, drawWindow_shows inRange within drawn⟩

theorem carryOut_showsAll {path : String} {verdict : Except Rejection (Timestamp × Timestamp)}
    (decides : Decides verdict start stop) (inRange : ¬ OutOfRange start stop) {millis : Nat}
    (within : millis ≤ (stop - start) / nanosPerMilli) :
    ∃ s : Script, (Provider.carryOut path drawWindow verdict s).1 =
      .ok (.string (ofInstant (shownAfter start millis)).iso) := by
  rcases decides with ⟨outOfRange, -⟩ | ⟨-, rfl⟩
  · exact absurd outOfRange inRange
  · obtain ⟨_, _, first, last⟩ := inRange_iff.mp inRange
    have begins : (ofInstant start).isRepresentable := ofInstant_representable.mpr (by omega)
    have ends : (ofInstant stop).isRepresentable := ofInstant_representable.mpr (by omega)
    have member : (ofInstant start).addMillis millis ∈
        Draw.support (instantBetween (ofInstant start) (ofInstant stop)) := by
      rw [support_instantBetween begins ends]
      exact ⟨millis, (within_of_inRange inRange).mpr within, rfl⟩
    obtain ⟨s, drawn⟩ := member
    exact ⟨s, drawWindow_shows inRange within drawn⟩

end

/-! ### The four providers -/

open Builtin

/-- At each of the paths, accepted arguments ask for a window, and the provider decides on it. -/
theorem exists_asked {path : String} (listed : path ∈ windowPaths)
    (known : c.reference.isRepresentable)
    (accepted : Arguments.read (declared path) args = .ok a)
    (plain : ∀ t ∈ namedTimes c path a, ¬ t.InLeap) :
    ∃ start stop, Asks c path a start stop ∧
      ∀ {σ : Type} [RandomSource σ] {p : Provider σ}, registry.resolve path = .ok p →
        ∃ verdict, p c args = Provider.carryOut path drawWindow verdict ∧
          Decides verdict start stop := by
  have reference (other : path ≠ "date.between") : ¬ (referenceOf c.reference a).InLeap := by
    apply plain
    rw [namedTimes, if_neg other]
    exact List.mem_singleton_self _
  simp only [windowPaths, List.mem_cons, List.not_mem_nil, or_false] at listed
  rcases listed with rfl | rfl | rfl | rfl
  · obtain ⟨start, stop, first, last⟩ := exists_bounds accepted
    have named : namedTimes c "date.between" a = [start, stop] := by
      rw [namedTimes, if_pos rfl, first, last]
      rfl
    rw [named] at plain
    have first_plain := plain start List.mem_cons_self
    have last_plain := plain stop (List.mem_cons_of_mem _ List.mem_cons_self)
    refine ⟨_, _, .between rfl first last, fun found => ?_⟩
    obtain rfl := eq_of_composed (q := between) (by simp [composed]) found
    exact between_decides accepted first last first_plain last_plain
  · refine ⟨_, _, .past rfl, fun found => ?_⟩
    obtain rfl := eq_of_composed (q := past) (by simp [composed]) found
    exact relative_decides .past .years accepted known (reference (by decide))
  · refine ⟨_, _, .recent rfl, fun found => ?_⟩
    obtain rfl := eq_of_composed (q := recent) (by simp [composed]) found
    rw [← Nat.mul_one (amount a "days")]
    exact relative_decides .past .days accepted known (reference (by decide))
  · refine ⟨_, _, .future rfl, fun found => ?_⟩
    obtain rfl := eq_of_composed (q := future) (by simp [composed]) found
    exact relative_decides .future .years accepted known (reference (by decide))

/-- A call with accepted arguments and without leap seconds asks for a window. It fails exactly if
the window is out of range, and is invalid then. Otherwise it shows, whatever is drawn, an instant a
whole number of milliseconds after the start, cut to milliseconds, which is not beyond the end of
the window; and every such instant is shown for some stream of words. -/
theorem asked_window {path : String} (listed : path ∈ windowPaths) {c : RecordContext}
    (known : c.reference.isRepresentable) {args : Option Json} {a : Arguments}
    (accepted : Arguments.read (declared path) args = .ok a)
    (plain : ∀ t ∈ namedTimes c path a, ¬ t.InLeap) :
    ∃ start stop, Asks c path a start stop ∧
      (∀ {σ : Type} [RandomSource σ] {p : Provider σ}, registry.resolve path = .ok p → ∀ s : σ,
        ((∃ e, (p c args s).1 = .error e) ↔ OutOfRange start stop) ∧
        (OutOfRange start stop →
          ∃ reason, p c args s = (.error (.invalid path (.refused reason)), s)) ∧
        (¬ OutOfRange start stop → ∃ millis : Nat, millis ≤ (stop - start) / nanosPerMilli ∧
          (p c args s).1 = .ok (.string (ofInstant (shownAfter start millis)).iso) ∧
          wholeMillis start ≤ shownAfter start millis ∧ shownAfter start millis ≤ stop)) ∧
      (¬ OutOfRange start stop → ∀ p : Provider Script, registry.resolve path = .ok p →
        ∀ millis : Nat, millis ≤ (stop - start) / nanosPerMilli → ∃ s : Script,
          (p c args s).1 = .ok (.string (ofInstant (shownAfter start millis)).iso)) := by
  obtain ⟨start, stop, asks, decides⟩ := exists_asked listed known accepted plain
  refine ⟨start, stop, asks, ?_, ?_⟩
  · intro σ _ p found s
    obtain ⟨verdict, carried, decided⟩ := decides found
    rw [carried]
    rcases carryOut_shows decided s with
      ⟨outOfRange, reason, failed⟩ | ⟨inRange, millis, within, shown⟩
    · have fails : ∃ e, (Provider.carryOut path drawWindow verdict s).1 = .error e :=
        ⟨_, congrArg Prod.fst failed⟩
      exact ⟨iff_of_true fails outOfRange, fun _ => ⟨reason, failed⟩,
        fun inRange => absurd outOfRange inRange⟩
    · have never : ¬ ∃ e, (Provider.carryOut path drawWindow verdict s).1 = .error e :=
        fun ⟨e, failed⟩ => nomatch shown.symm.trans failed
      exact ⟨iff_of_false never inRange, fun outOfRange => absurd outOfRange inRange,
        fun _ => ⟨millis, within, shown, shownAfter_bounds within⟩⟩
  · intro inRange p found millis within
    obtain ⟨verdict, carried, decided⟩ := decides found
    rw [carried]
    exact carryOut_showsAll decided inRange within

theorem asked_window_leap_day :
    let c : RecordContext := ⟨0, .enUS, .midnight 0⟩
    let args := some (Json.object [("days", .ofUInt64 1), ("refDate", .string "2024-03-01")])
    let start := (midnight (Date.dayNumber ⟨2024, 2, 29⟩)).instant
    (∀ s : Script, ∃ millis : Nat, millis ≤ 86400000 ∧
        (recent c args s).1 = .ok (.string (ofInstant (shownAfter start millis)).iso)) ∧
      ∃ s : Script, (recent c args s).1 = .ok (.string "2024-02-29T23:59:59.999Z") := by
  intro c args start
  have accepts : (Arguments.read (declared "date.recent") args).toBool = true := by decide +kernel
  obtain ⟨a, accepted⟩ : ∃ a, Arguments.read (declared "date.recent") args = .ok a := by
    cases read : Arguments.read (declared "date.recent") args with
    | ok a => exact ⟨a, rfl⟩
    | error fault => exact nomatch read ▸ accepts
  obtain ⟨rfl, -⟩ := Arguments.read_object_ok accepted
  have dated : referenceOf c.reference
      ⟨[("days", .ofUInt64 1), ("refDate", .string "2024-03-01")]⟩ =
        midnight (Date.dayNumber ⟨2024, 3, 1⟩) := by
    decide +kernel
  have plain : ∀ t ∈ namedTimes c "date.recent"
      ⟨[("days", .ofUInt64 1), ("refDate", .string "2024-03-01")]⟩, ¬ t.InLeap := by
    rw [namedTimes, if_neg (by decide), dated]
    simp [InLeap, midnight, nanosPerSecond]
  have known : c.reference.isRepresentable := by decide +kernel
  obtain ⟨first, last, asks, shows, all⟩ := asked_window (by decide) known accepted plain
  have found : registry.resolve "date.recent" = .ok (recent : Provider Script) :=
    resolve_of_composed (by simp [composed])
  have bounds : first = start ∧ last - first = 86400000 * nanosPerMilli ∧
      InCalendar first last := by
    cases asks with
    | recent _ =>
      rw [dated]
      unfold InCalendar
      refine ⟨?_, ?_, ?_, ?_⟩ <;> decide +kernel
    | between named => exact absurd named (by decide)
    | past named => exact absurd named (by decide)
    | future named => exact absurd named (by decide)
  obtain ⟨rfl, length, inside⟩ := bounds
  have inRange : ¬ OutOfRange start last := by
    rw [inRange_iff, length]
    unfold nanosPerMilli at *
    exact ⟨by omega, by decide, inside⟩
  have millis : (last - start) / nanosPerMilli = 86400000 := by
    rw [length]
    rfl
  constructor
  · intro s
    obtain ⟨k, within, shown, -⟩ := (shows found s).2.2 inRange
    rw [millis] at within
    exact ⟨k, by omega, shown⟩
  · obtain ⟨s, shown⟩ := all inRange _ found 86399999 (by rw [millis]; decide)
    have text : (ofInstant (shownAfter start 86399999)).iso = "2024-02-29T23:59:59.999Z" := by
      decide +kernel
    exact ⟨s, text ▸ shown⟩

end Dates

end MockData
