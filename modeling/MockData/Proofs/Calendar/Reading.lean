import Mathlib.Data.Option.Basic
import MockData.Calendar.Parser
import MockData.Proofs.Calendar.Instants
import MockData.Proofs.Text.Characters

/-!
# Timestamps that are read

A text is read as a time that can be represented, and a leap second as the end of a minute. Only a
zone moves what is read, by whole minutes, and it stands behind a year of four digits, far from the
ends of the calendar.
-/

namespace MockData

namespace Calendar

theorem number?_lt {least most n : Nat} {text rest : List Char}
    (read : number? least most text = some (n, rest)) : n < 10 ^ most := by
  unfold number? at read
  dsimp only at read
  split at read
  · cases read
  · obtain ⟨rfl, -⟩ := Prod.mk.inj (Option.some.inj read)
    have all : ∀ c ∈ (text.take most).takeWhile Char.isDigit, c.isDigit :=
      List.all_eq_true.mp List.all_takeWhile
    have short : ((text.take most).takeWhile Char.isDigit).length ≤ most :=
      Nat.le_trans (List.takeWhile_sublist _).length_le (List.length_take_le most text)
    have below := ofDigitChars_lt all 0
    rw [Nat.zero_add, Nat.one_mul] at below
    exact Nat.lt_of_lt_of_le below (Nat.pow_le_pow_right (by decide) short)

theorem date?_some {year : Int} {month day : Nat} {d : Date}
    (read : date? year month day = some d) : d.isRepresentable ∧ d.year = year := by
  unfold date? at read
  dsimp only at read
  split at read
  · rename_i representable
    obtain rfl := Option.some.inj read
    exact ⟨representable, rfl⟩
  · cases read

theorem timestamp?_some {d : Date} {hour minute second nano : Nat} {t : Timestamp}
    (read : timestamp? d hour minute second nano = some t) :
    t.day = d.dayNumber ∧ t.Settled := by
  unfold timestamp? at read
  split at read
  · rename_i fields
    split at read
    · obtain rfl := Option.some.inj read
      refine ⟨rfl, fun _ => ?_⟩
      dsimp only
      omega
    · obtain rfl := Option.some.inj read
      refine ⟨rfl, Timestamp.settled_of_plain ?_⟩
      unfold Timestamp.InLeap Timestamp.nanosPerSecond
      dsimp only
      omega
  · cases read

theorem dateFields?_some {text rest : List Char} {d : Date}
    (read : dateFields? text = some (d, rest)) : d.isRepresentable := by
  unfold dateFields? at read
  obtain ⟨⟨year, _⟩, _, read⟩ := Option.bind_eq_some_iff.mp read
  obtain ⟨_, _, read⟩ := Option.bind_eq_some_iff.mp read
  obtain ⟨⟨month, _⟩, _, read⟩ := Option.bind_eq_some_iff.mp read
  obtain ⟨_, _, read⟩ := Option.bind_eq_some_iff.mp read
  obtain ⟨⟨day, _⟩, _, read⟩ := Option.bind_eq_some_iff.mp read
  obtain ⟨date, made, same⟩ := Option.bind_eq_some_iff.mp read
  obtain ⟨rfl, -⟩ := Prod.mk.inj (Option.some.inj same)
  exact (date?_some made).1

theorem clockFields?_some {d : Date} {text : List Char} {t : Timestamp}
    (read : clockFields? d text = some t) : t.day = d.dayNumber ∧ t.Settled := by
  unfold clockFields? at read
  obtain ⟨⟨hour, _⟩, _, read⟩ := Option.bind_eq_some_iff.mp read
  obtain ⟨_, _, read⟩ := Option.bind_eq_some_iff.mp read
  obtain ⟨⟨minute, _⟩, _, read⟩ := Option.bind_eq_some_iff.mp read
  obtain ⟨_, _, read⟩ := Option.bind_eq_some_iff.mp read
  obtain ⟨⟨second, _⟩, _, read⟩ := Option.bind_eq_some_iff.mp read
  obtain ⟨_, _, read⟩ := Option.bind_eq_some_iff.mp read
  exact timestamp?_some read

/-- A zone is less than a day off, in whole minutes. -/
theorem zone?_some {text rest : List Char} {offset : Int}
    (read : zone? text = some (offset, rest)) :
    -86400 < offset ∧ offset < 86400 ∧ offset % 60 = 0 := by
  unfold zone? at read
  split at read
  · obtain ⟨rfl, -⟩ := Prod.mk.inj (Option.some.inj read)
    decide
  · obtain ⟨rfl, -⟩ := Prod.mk.inj (Option.some.inj read)
    decide
  · obtain ⟨_, _, read⟩ := Option.bind_eq_some_iff.mp read
    obtain ⟨⟨hours, _⟩, _, read⟩ := Option.bind_eq_some_iff.mp read
    obtain ⟨_, _, read⟩ := Option.bind_eq_some_iff.mp read
    obtain ⟨⟨minutes, _⟩, _, read⟩ := Option.bind_eq_some_iff.mp read
    obtain ⟨_, bounded, read⟩ := Option.bind_eq_some_iff.mp read
    have short := (Option.guard_eq_some' ()).mp bounded
    simp only [Bool.and_eq_true, decide_eq_true_eq] at short
    obtain ⟨same, -⟩ := Prod.mk.inj (Option.some.inj read)
    split at same <;> omega
  · cases read

theorem zoned?_some {text : List Char} {t : Timestamp} (read : zoned? text = some t) :
    t.isRepresentable ∧ t.Settled := by
  unfold zoned? at read
  obtain ⟨⟨year, _⟩, digits, read⟩ := Option.bind_eq_some_iff.mp read
  obtain ⟨_, _, read⟩ := Option.bind_eq_some_iff.mp read
  obtain ⟨⟨month, _⟩, _, read⟩ := Option.bind_eq_some_iff.mp read
  obtain ⟨_, _, read⟩ := Option.bind_eq_some_iff.mp read
  obtain ⟨⟨day, _⟩, _, read⟩ := Option.bind_eq_some_iff.mp read
  obtain ⟨_, _, read⟩ := Option.bind_eq_some_iff.mp read
  obtain ⟨⟨hour, _⟩, _, read⟩ := Option.bind_eq_some_iff.mp read
  obtain ⟨_, _, read⟩ := Option.bind_eq_some_iff.mp read
  obtain ⟨⟨minute, _⟩, _, read⟩ := Option.bind_eq_some_iff.mp read
  obtain ⟨_, _, read⟩ := Option.bind_eq_some_iff.mp read
  obtain ⟨⟨second, _⟩, _, read⟩ := Option.bind_eq_some_iff.mp read
  obtain ⟨⟨nano, _⟩, _, read⟩ := Option.bind_eq_some_iff.mp read
  obtain ⟨⟨offset, _⟩, zone, read⟩ := Option.bind_eq_some_iff.mp read
  obtain ⟨_, _, read⟩ := Option.bind_eq_some_iff.mp read
  obtain ⟨d, date, read⟩ := Option.bind_eq_some_iff.mp read
  obtain ⟨u, clock, read⟩ := Option.bind_eq_some_iff.mp read
  obtain rfl := Option.some.inj read
  have early := number?_lt digits
  obtain ⟨least, most, minutes⟩ := zone?_some zone
  obtain ⟨place, settled⟩ := timestamp?_some clock
  obtain ⟨representable, same⟩ := date?_some date
  have inside := Date.dayNumber_year (Date.isRepresentable_iff.mp representable).1
  have first := Date.daysBeforeYear_mono (show 0 ≤ d.year by omega)
  have last := Date.daysBeforeYear_mono (show d.year + 1 ≤ 10000 by omega)
  have ends : Date.firstDay ≤ Date.daysBeforeYear 0 - 1 ∧
      Date.daysBeforeYear 10000 + 1 ≤ Date.lastDay := by decide +kernel
  have clocked := u.second_lt
  constructor
  · rw [Timestamp.isRepresentable_iff, Timestamp.ofSeconds]
    dsimp only
    omega
  · intro leap
    have second := settled leap
    unfold Timestamp.ofSeconds
    dsimp only
    omega

end Calendar

open Calendar

theorem Timestamp.parse?_sound {text : String} {t : Timestamp} (read : parse? text = some t) :
    t.isRepresentable ∧ t.Settled := by
  have dated {d : Date} (representable : d.isRepresentable)
      (made : t.day = d.dayNumber ∧ t.Settled) : t.isRepresentable ∧ t.Settled := by
    rw [isRepresentable_iff, made.1]
    exact ⟨Date.dayNumber_bounds representable, made.2⟩
  unfold parse? at read
  dsimp only at read
  simp only [Option.orElse_eq_some] at read
  rcases read with zoned | ⟨-, joined | ⟨-, spaced | ⟨-, bare⟩⟩⟩
  · exact zoned?_some zoned
  · unfold joined? at joined
    obtain ⟨⟨d, _⟩, date, joined⟩ := Option.bind_eq_some_iff.mp joined
    obtain ⟨_, _, clock⟩ := Option.bind_eq_some_iff.mp joined
    exact dated (dateFields?_some date) (clockFields?_some clock)
  · unfold spaced? at spaced
    obtain ⟨⟨d, _⟩, date, clock⟩ := Option.bind_eq_some_iff.mp spaced
    exact dated (dateFields?_some date) (clockFields?_some clock)
  · unfold bareDate? at bare
    obtain ⟨⟨d, _⟩, date, bare⟩ := Option.bind_eq_some_iff.mp bare
    obtain ⟨_, _, bare⟩ := Option.bind_eq_some_iff.mp bare
    obtain rfl := Option.some.inj bare
    exact dated (dateFields?_some date) ⟨rfl, settled_midnight _⟩

/-- A time that is read can be represented. -/
theorem Timestamp.parse?_some {text : String} {t : Timestamp} (read : parse? text = some t) :
    t.isRepresentable := (parse?_sound read).1

/-- A leap second that is read ends its minute, whatever the zone. -/
theorem Timestamp.parse?_settled {text : String} {t : Timestamp} (read : parse? text = some t) :
    t.Settled := (parse?_sound read).2

end MockData
