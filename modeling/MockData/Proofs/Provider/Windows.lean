import MockData.Proofs.Calendar.Reading
import MockData.Proofs.Provider.ContextUse
import MockData.Proofs.Random.Support

/-!
# Windows of time

A provider of dates reaches a window and draws an instant of it, a whole number of milliseconds
after its start and not beyond its end. The times that it is given can be represented, and none of
them has a leap second within a minute.
-/

namespace MockData

theorem Arguments.exists_text {a : Arguments} {key : String} {t : Timestamp}
    (given : a.timestamp? key = some t) : ∃ text, Timestamp.parse? text = some t := by
  obtain ⟨value, _, reads⟩ := Option.bind_eq_some_iff.mp given
  obtain ⟨text, _, parsed⟩ := Option.bind_eq_some_iff.mp reads
  exact ⟨text, parsed⟩

theorem Arguments.timestamp?_some {a : Arguments} {key : String} {t : Timestamp}
    (given : a.timestamp? key = some t) : t.isRepresentable := by
  obtain ⟨text, parsed⟩ := exists_text given
  exact Timestamp.parse?_some parsed

theorem Arguments.timestamp?_settled {a : Arguments} {key : String} {t : Timestamp}
    (given : a.timestamp? key = some t) : t.Settled := by
  obtain ⟨text, parsed⟩ := exists_text given
  exact Timestamp.parse?_settled parsed

namespace Dates

variable {σ : Type} [RandomSource σ]

theorem instantBetween_spec (start stop : Timestamp) (s : σ) :
    ∃ millis, millis ≤ start.millisBetween stop ∧
      (instantBetween start stop s).1 = start.addMillis millis := by
  have below := Draw.below64_lt (Nat.succ_pos (start.millisBetween stop)) s
  exact ⟨_, Nat.le_of_lt_succ below, rfl⟩

/-- Every whole number of milliseconds may be drawn: none is too large for a word. -/
theorem support_instantBetween {start stop : Timestamp} (first : start.isRepresentable)
    (last : stop.isRepresentable) : Draw.support (instantBetween start stop) =
      {t | ∃ millis, millis ≤ start.millisBetween stop ∧ t = start.addMillis millis} := by
  have word := Timestamp.millisBetween_lt first last
  apply Draw.support_eq
  · exact instantBetween_spec start stop
  · rintro t ⟨millis, within, rfl⟩
    have drawn : Draw.Reaches (Draw.below64 (start.millisBetween stop + 1)) millis :=
      Draw.below64_reaches (by omega) (Nat.lt_succ_of_le within)
    exact drawn.bind (Draw.Reaches.of_pure _)

theorem drawWindow_apply (window : Timestamp × Timestamp) (s : σ) :
    (drawWindow window s).1 =
      if (instantBetween window.1 window.2 s).1.isRepresentable then
        .ok (.string (instantBetween window.1 window.2 s).1.iso) else .error .emptyRange := by
  unfold drawWindow
  rfl

variable {path : String} {parameters : List Parameter}
  {window : Timestamp → Arguments → Except Rejection (Timestamp × Timestamp)}
  {c : RecordContext} {args : Option Json} {s : σ}

theorem windowed_accepted {a : Arguments} (accepted : Arguments.read parameters args = .ok a) :
    (windowed path parameters window : Provider σ) c args =
      Provider.carryOut path drawWindow (window c.reference a) :=
  Provider.decided_accepted accepted

theorem windowed_ok {v : Json} (given : (windowed path parameters window c args s).1 = .ok v) :
    ∃ a start stop, Arguments.read parameters args = .ok a ∧
      window c.reference a = .ok (start, stop) ∧
      v = .string (instantBetween start stop s).1.iso := by
  obtain ⟨a, reached, read, found, drawn⟩ := Provider.decided_ok.mp given
  rw [drawWindow_apply] at drawn
  split at drawn
  · exact ⟨a, reached.1, reached.2, read, found, (Except.ok.inj drawn).symm⟩
  · exact nomatch drawn

theorem windowed_ends
    (ends : (windowed path parameters window c args s).1 = .error .emptyRange) :
    ∃ a, Arguments.read parameters args = .ok a ∧ (window c.reference a = .error .emptyRange ∨
      ∃ start stop, window c.reference a = .ok (start, stop) ∧
        ¬ (instantBetween start stop s).1.isRepresentable) := by
  obtain ⟨a, read, empty | ⟨w, found, drawn⟩⟩ := Provider.decided_ends.mp ends
  · exact ⟨a, read, .inl empty⟩
  · rw [drawWindow_apply] at drawn
    split at drawn
    · exact nomatch drawn
    · rename_i beyond
      exact ⟨a, read, .inr ⟨w.1, w.2, found, beyond⟩⟩

/-- What is drawn is beyond the calendar only in a window that ends in its last leap second, and not
if that is all of the window. -/
theorem instantBetween_beyond {start stop : Timestamp} (first : start.isRepresentable)
    (last : stop.isRepresentable)
    (beyond : ¬ (instantBetween start stop s).1.isRepresentable) : stop.AtEnd ∧ start ≠ stop := by
  obtain ⟨millis, within, drawn⟩ := instantBetween_spec start stop s
  rw [drawn] at beyond
  refine ⟨?_, fun same => beyond ?_⟩
  · by_contra before
    exact beyond (Timestamp.addMillis_representable first last within before)
  · rw [same, Timestamp.millisBetween_self] at within
    rw [Nat.le_zero.mp within, Timestamp.addMillis_zero]
    exact first

/-! ### Times that windows start or end at -/

theorem referenceOf_representable (known : c.reference.isRepresentable) (a : Arguments) :
    (referenceOf c.reference a).isRepresentable := by
  unfold referenceOf
  cases given : a.timestamp? "refDate" with
  | none => exact known
  | some t => exact Arguments.timestamp?_some given

theorem shift?_some {t shifted : Timestamp} {days : Int} (found : shift? t days = some shifted) :
    shifted = t.addDays days ∧ shifted.isRepresentable := by
  unfold shift? at found
  dsimp only at found
  split at found
  · rename_i representable
    obtain rfl := Option.some.inj found
    exact ⟨rfl, representable⟩
  · exact nomatch found

theorem shift?_leap {t shifted : Timestamp} {days : Int} (found : shift? t days = some shifted)
    (leap : shifted.InLeap) : days = 0 ∧ shifted = t := by
  obtain ⟨rfl, -⟩ := shift?_some found
  by_cases none : days = 0
  · rw [none]
    exact ⟨rfl, Timestamp.addDays_zero t⟩
  · exact absurd leap (Timestamp.not_inLeap_addDays t none)

/-- Years are taken away as 365 days each. -/
theorem yearsBefore?_some {reference t : Timestamp} {age : UInt64}
    (found : yearsBefore? reference age = some t) :
    shift? reference (-(age.toNat * 365 : Nat)) = some t := by
  obtain ⟨days, span, shifted⟩ := Option.bind_eq_some_iff.mp found
  unfold SpanUnit.span? SpanUnit.lengthInDays at span
  dsimp only at span
  split at span
  · obtain rfl := Option.some.inj span
    exact shifted
  · exact nomatch span

end Dates

end MockData
