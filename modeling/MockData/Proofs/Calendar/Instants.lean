import MockData.Proofs.Calendar.Days
import MockData.Calendar.Timestamp

/-!
# Instants

A timestamp stands for a number of nanoseconds, in which the second half of a leap second is the
second after it. Days taken away move a timestamp by their length. Milliseconds added move it by
theirs, less one second if they lead out of a leap second. A timestamp that is drawn for a window is
not beyond its end, as `addMillis_window` says. Outside of leap seconds a timestamp is known by its
instant, and all of this is arithmetic on instants. A timestamp is settled if it has no leap second
within a minute.
-/

namespace MockData

namespace Timestamp

/-- The nanoseconds from the first midnight of year 0. -/
def instant (t : Timestamp) : Int := (t.day * 86400 + t.second) * nanosPerSecond + t.nano

def InLeap (t : Timestamp) : Prop := nanosPerSecond ≤ t.nano

def leapNanos (t : Timestamp) : Int := if nanosPerSecond ≤ t.nano then nanosPerSecond else 0

theorem leapNanos_bounds (t : Timestamp) : 0 ≤ t.leapNanos ∧ t.leapNanos ≤ nanosPerSecond := by
  unfold leapNanos nanosPerSecond
  split <;> decide

theorem leapNanos_plain {t : Timestamp} (plain : ¬ t.InLeap) : t.leapNanos = 0 := if_neg plain

def nanosPerDay : Int := 86400 * nanosPerSecond

/-- A timestamp stands for an instant of its day, or for one of the leap second at its end. -/
theorem instant_bounds (t : Timestamp) : t.day * nanosPerDay + t.leapNanos ≤ t.instant ∧
    t.instant < (t.day + 1) * nanosPerDay + t.leapNanos := by
  have second := t.second_lt
  have nano := t.nano_lt
  unfold instant leapNanos nanosPerDay nanosPerSecond
  split <;> omega

theorem instant_ofSeconds (day seconds : Int) {nano : Nat} (nano_lt : nano < 2000000000) :
    (ofSeconds day seconds nano nano_lt).instant =
      (day * 86400 + seconds) * nanosPerSecond + nano := by
  unfold instant ofSeconds nanosPerSecond
  dsimp only
  omega

/-! ### Time added -/

section

variable {t : Timestamp} {seconds nanos : Int}

/-- The sum stays in the leap second, or returns to its first half. -/
def Stays (t : Timestamp) (seconds nanos : Int) : Prop :=
  t.InLeap ∧ seconds = 0 ∧ (nanos ≤ 0 ∨ t.nano + nanos < 2 * nanosPerSecond)

theorem stays_iff : (decide (nanosPerSecond ≤ t.nano) && decide (seconds = 0) &&
    (decide (nanos ≤ 0) || decide (t.nano + nanos < 2 * nanosPerSecond))) = true ↔
      Stays t seconds nanos := by
  simp [Stays, InLeap, and_assoc]

theorem add_stays (stays : Stays t seconds nanos) (least : -nanosPerSecond < nanos) :
    (t.add seconds nanos).day = t.day ∧ (t.add seconds nanos).instant = t.instant + nanos := by
  have nano := t.nano_lt
  unfold add
  dsimp only
  rw [if_pos (stays_iff.mpr stays)]
  obtain ⟨leap, -, small⟩ := stays
  refine ⟨rfl, ?_⟩
  unfold InLeap at leap
  unfold instant
  unfold nanosPerSecond at *
  dsimp only
  omega

/-- Time that leads out of a leap second forward is a second short. -/
theorem add_leaves (leaves : ¬ Stays t seconds nanos) :
    (t.add seconds nanos).instant = t.instant + seconds * nanosPerSecond + nanos -
        (if 0 ≤ seconds then t.leapNanos else 0) ∧
      ¬ (t.add seconds nanos).InLeap := by
  unfold add
  dsimp only
  rw [if_neg (mt stays_iff.mp leaves)]
  constructor
  · rw [instant_ofSeconds]
    simp only [Bool.and_eq_true, decide_eq_true_eq]
    unfold instant leapNanos
    unfold nanosPerSecond
    split <;> split <;> split <;> omega
  · unfold InLeap ofSeconds nanosPerSecond
    dsimp only
    omega

end

theorem eq_of_instant {s t : Timestamp} (plain : ¬ s.InLeap) (other : ¬ t.InLeap)
    (same : s.instant = t.instant) : s = t := by
  have second := s.second_lt
  have otherSecond := t.second_lt
  unfold InLeap at plain other
  unfold instant at same
  unfold nanosPerSecond at *
  cases s
  cases t
  simp only [mk.injEq]
  dsimp only at *
  omega

theorem add_zero (t : Timestamp) : t.add 0 0 = t := by
  by_cases leap : t.InLeap
  · have nano := t.nano_lt
    have stays : Stays t 0 0 := ⟨leap, rfl, .inl (Int.le_refl 0)⟩
    unfold add
    dsimp only
    rw [if_pos (stays_iff.mpr stays)]
    cases t
    simp only [mk.injEq, true_and]
    dsimp only at nano
    omega
  · have leaves : ¬ Stays t 0 0 := fun stays => leap stays.1
    obtain ⟨moved, plain⟩ := add_leaves leaves
    apply eq_of_instant plain leap
    rw [moved, if_pos (Int.le_refl 0), leapNanos_plain leap]
    simp

/-- A leap second is the last second of its minute. -/
def Settled (t : Timestamp) : Prop := t.InLeap → t.second % 60 = 59

theorem settled_of_plain {t : Timestamp} (plain : ¬ t.InLeap) : t.Settled :=
  fun leap => absurd leap plain

theorem settled_midnight (day : Int) : (midnight day).Settled := by
  apply settled_of_plain
  simp [InLeap, midnight, nanosPerSecond]

theorem settled_add {t : Timestamp} (settled : t.Settled) (seconds nanos : Int) :
    (t.add seconds nanos).Settled := by
  by_cases stays : Stays t seconds nanos
  · have same : (t.add seconds nanos).second = t.second := by
      unfold add
      dsimp only
      rw [if_pos (stays_iff.mpr stays)]
    intro _
    rw [same]
    exact settled stays.1
  · exact settled_of_plain (add_leaves stays).2

/-! ### Days -/

theorem addDays_zero (t : Timestamp) : t.addDays 0 = t := add_zero t

theorem not_stays_days {t : Timestamp} {days : Int} (some : days ≠ 0) :
    ¬ Stays t (86400 * days) 0 := by
  rintro ⟨-, none, -⟩
  omega

theorem not_inLeap_addDays (t : Timestamp) {days : Int} (some : days ≠ 0) :
    ¬ (t.addDays days).InLeap := (add_leaves (not_stays_days some)).2

theorem addDays_back (t : Timestamp) (days : Nat) :
    (t.addDays (-days)).instant = t.instant - days * nanosPerDay := by
  rcases Nat.eq_zero_or_pos days with rfl | some
  · rw [show (-((0 : Nat) : Int)) = 0 from rfl, addDays_zero]
    simp
  · have backward : ¬ 0 ≤ 86400 * (-days : Int) := by omega
    have moved := (add_leaves (t := t) (not_stays_days (show (-days : Int) ≠ 0 by omega))).1
    rw [addDays, moved, if_neg backward]
    unfold nanosPerDay nanosPerSecond
    omega

/-! ### Milliseconds -/

theorem addMillis_zero (t : Timestamp) : t.addMillis 0 = t := add_zero t

/-- Milliseconds stay in a leap second, or lead out of it to an instant. -/
theorem addMillis_cases (t : Timestamp) (millis : Nat) :
    (t.InLeap ∧ (t.addMillis millis).day = t.day) ∨
      ((t.addMillis millis).instant = t.instant + millis * nanosPerMilli - t.leapNanos ∧
        ¬ (t.addMillis millis).InLeap) := by
  have forward : 0 ≤ ((millis / 1000 : Nat) : Int) := Int.natCast_nonneg _
  unfold addMillis
  by_cases stays : Stays t (millis / 1000 : Nat) ((millis % 1000 : Nat) * nanosPerMilli)
  · have least : -nanosPerSecond < (millis % 1000 : Nat) * nanosPerMilli := by
      unfold nanosPerSecond nanosPerMilli
      omega
    exact .inl ⟨stays.1, (add_stays stays least).1⟩
  · obtain ⟨moved, plain⟩ := add_leaves stays
    refine .inr ⟨?_, plain⟩
    rw [moved, if_pos forward]
    unfold nanosPerSecond nanosPerMilli
    omega

theorem addMillis_plain {t : Timestamp} (plain : ¬ t.InLeap) (millis : Nat) :
    (t.addMillis millis).instant = t.instant + millis * nanosPerMilli := by
  obtain ⟨moved, -⟩ := (addMillis_cases t millis).resolve_left fun stays => plain stays.1
  rw [moved, leapNanos_plain plain, Int.sub_zero]

theorem day_le_addMillis (t : Timestamp) (millis : Nat) : t.day ≤ (t.addMillis millis).day := by
  rcases addMillis_cases t millis with ⟨-, same⟩ | ⟨moved, plain⟩
  · exact Int.le_of_eq same.symm
  · have least := (instant_bounds t).1
    have most := (instant_bounds (t.addMillis millis)).2
    rw [moved, leapNanos_plain plain] at most
    unfold nanosPerDay nanosPerSecond at *
    unfold nanosPerMilli at most
    omega

/-! ### Windows -/

/-- The time between two timestamps counts a leap second that the first one is in. -/
theorem nanosBetween_le (s t : Timestamp) :
    nanosBetween s t ≤ t.instant - s.instant + s.leapNanos := by
  unfold nanosBetween instant leapNanos
  simp only [Bool.and_eq_true, decide_eq_true_eq]
  unfold nanosPerSecond
  split <;> split <;> omega

theorem millisBetween_self (t : Timestamp) : millisBetween t t = 0 := by
  unfold millisBetween nanosBetween nanosPerMilli
  simp

theorem addMillis_window {s t : Timestamp} {millis : Nat} (within : millis ≤ millisBetween s t) :
    (s.addMillis millis).day = s.day ∨ (s.addMillis millis).instant ≤ t.instant := by
  rcases Nat.eq_zero_or_pos millis with rfl | some
  · rw [addMillis_zero]
    exact .inl rfl
  · rcases addMillis_cases s millis with ⟨-, same⟩ | ⟨moved, -⟩
    · exact .inl same
    · have between := nanosBetween_le s t
      unfold millisBetween at within
      unfold nanosPerMilli at within moved
      right
      omega

/-! ### The ends of the calendar -/

theorem isRepresentable_iff {t : Timestamp} :
    t.isRepresentable ↔ Date.firstDay ≤ t.day ∧ t.day ≤ Date.lastDay := by
  simp [isRepresentable]

def AtEnd (t : Timestamp) : Prop := t.day = Date.lastDay ∧ t.second = 86399 ∧ t.InLeap

/-- A window leads out of the calendar only if it ends in the last leap second. -/
theorem addMillis_representable {s t : Timestamp} {millis : Nat} (start : s.isRepresentable)
    (stop : t.isRepresentable) (within : millis ≤ millisBetween s t) (before : ¬ t.AtEnd) :
    (s.addMillis millis).isRepresentable := by
  rw [isRepresentable_iff] at start stop ⊢
  refine ⟨Int.le_trans start.1 (day_le_addMillis s millis), ?_⟩
  rcases addMillis_window within with same | notLater
  · rw [same]
    exact start.2
  · have second := t.second_lt
    have nano := t.nano_lt
    have least := (instant_bounds (s.addMillis millis)).1
    have none := (leapNanos_bounds (s.addMillis millis)).1
    unfold AtEnd InLeap at before
    unfold instant at notLater
    unfold nanosPerDay at least
    unfold nanosPerSecond at *
    omega

theorem millisBetween_lt {s t : Timestamp} (start : s.isRepresentable) (stop : t.isRepresentable) :
    millisBetween s t < 0x8000000000000000 := by
  rw [isRepresentable_iff] at start stop
  have calendar : Date.lastDay - Date.firstDay < 200000000 := by decide +kernel
  have between := nanosBetween_le s t
  have least := (instant_bounds s).1
  have most := (instant_bounds t).2
  have second := (leapNanos_bounds t).2
  unfold millisBetween nanosPerMilli
  unfold nanosPerDay nanosPerSecond at *
  omega

/-! ### Whole milliseconds -/

def cutToMillis (t : Timestamp) : Timestamp :=
  { t with nano := t.nano / 1000000 * 1000000, nano_lt := by have := t.nano_lt; omega }

def wholeMillis (n : Int) : Int := n / nanosPerMilli * nanosPerMilli

theorem instant_cutToMillis (t : Timestamp) : t.cutToMillis.instant = wholeMillis t.instant := by
  unfold instant cutToMillis wholeMillis nanosPerSecond nanosPerMilli
  dsimp only
  omega

theorem iso_cutToMillis (t : Timestamp) : t.cutToMillis.iso = t.iso := by
  have second : t.cutToMillis.shownSecond = t.shownSecond := by
    simp only [shownSecond, cutToMillis]
    omega
  have millis : t.cutToMillis.shownNano / 1000000 = t.shownNano / 1000000 := by
    simp only [shownNano, cutToMillis]
    omega
  unfold iso clockText
  rw [second, millis]
  rfl

theorem cutToMillis_instant (t : Timestamp) : t.cutToMillis.instant ≤ t.instant ∧
    t.instant < t.cutToMillis.instant + nanosPerMilli := by
  rw [instant_cutToMillis]
  unfold wholeMillis nanosPerMilli
  omega

/-! ### Outside of leap seconds -/

theorem secondOf_lt (n : Int) : (n % nanosPerDay / nanosPerSecond).toNat < 86400 := by
  unfold nanosPerDay nanosPerSecond
  omega

theorem nanoOf_lt (n : Int) : (n % nanosPerSecond).toNat < 2000000000 := by
  unfold nanosPerSecond
  omega

def ofInstant (n : Int) : Timestamp where
  day := n / nanosPerDay
  second := (n % nanosPerDay / nanosPerSecond).toNat
  nano := (n % nanosPerSecond).toNat
  second_lt := secondOf_lt n
  nano_lt := nanoOf_lt n

theorem instant_ofInstant (n : Int) : (ofInstant n).instant = n := by
  unfold instant ofInstant nanosPerDay nanosPerSecond
  dsimp only
  omega

theorem not_inLeap_ofInstant (n : Int) : ¬ (ofInstant n).InLeap := by
  unfold InLeap ofInstant nanosPerSecond
  dsimp only
  omega

theorem eq_ofInstant {t : Timestamp} (plain : ¬ t.InLeap) : t = ofInstant t.instant :=
  eq_of_instant plain (not_inLeap_ofInstant _) (instant_ofInstant _).symm

theorem addMillis_ofInstant (n : Int) (millis : Nat) :
    (ofInstant n).addMillis millis = ofInstant (n + millis * nanosPerMilli) := by
  have plain := not_inLeap_ofInstant n
  have outside := ((addMillis_cases (ofInstant n) millis).resolve_left fun stays => plain stays.1).2
  rw [eq_ofInstant outside, addMillis_plain plain, instant_ofInstant]

theorem addDays_ofInstant (n days : Int) :
    (ofInstant n).addDays days = ofInstant (n + days * nanosPerDay) := by
  have plain := not_inLeap_ofInstant n
  have leaves : ¬ Stays (ofInstant n) (86400 * days) 0 := fun stays => plain stays.1
  obtain ⟨moved, outside⟩ := add_leaves leaves
  have same : (ofInstant n).instant + 86400 * days * nanosPerSecond + 0 - 0 =
      n + days * nanosPerDay := by
    rw [instant_ofInstant]
    unfold nanosPerDay nanosPerSecond
    omega
  rw [addDays, eq_ofInstant outside, moved, leapNanos_plain plain, ite_self, same]

theorem le_ofInstant (n m : Int) : (ofInstant n).le (ofInstant m) ↔ n ≤ m := by
  unfold le ofInstant nanosPerDay nanosPerSecond
  dsimp only
  split
  · simp
    omega
  · split
    · simp
      omega
    · simp
      omega

theorem nanosBetween_ofInstant (n m : Int) : nanosBetween (ofInstant n) (ofInstant m) = m - n := by
  have first := not_inLeap_ofInstant n
  have second := not_inLeap_ofInstant m
  have start := instant_ofInstant n
  have stop := instant_ofInstant m
  unfold InLeap at first second
  unfold instant at start stop
  unfold nanosBetween
  simp only [first, second, decide_false, Bool.and_false, Bool.false_eq_true, if_false]
  unfold nanosPerSecond at *
  omega

theorem millisBetween_ofInstant (n m : Int) :
    millisBetween (ofInstant n) (ofInstant m) = ((m - n) / nanosPerMilli).toNat := by
  rw [millisBetween, nanosBetween_ofInstant]

theorem ofInstant_representable {n : Int} : (ofInstant n).isRepresentable ↔
    Date.firstDay * nanosPerDay ≤ n ∧ n < (Date.lastDay + 1) * nanosPerDay := by
  rw [isRepresentable_iff, ofInstant]
  dsimp only
  unfold nanosPerDay nanosPerSecond
  omega

theorem cutToMillis_ofInstant (n : Int) :
    (ofInstant n).cutToMillis = ofInstant (wholeMillis n) := by
  have outside : ¬ (ofInstant n).cutToMillis.InLeap := by
    have plain := not_inLeap_ofInstant n
    unfold InLeap cutToMillis nanosPerSecond at *
    dsimp only
    omega
  rw [eq_ofInstant outside, instant_cutToMillis, instant_ofInstant]

end Timestamp

end MockData
