import MockData.Vocabulary.Basic
import MockData.Provider.Arguments
import MockData.Random.Draw

/-!
# Providers

A provider makes a value for a record, from its arguments and from random draws. `Provider.decided`
is the form of the built-in ones: the arguments are checked first, together with the reference time,
and only a call that is not rejected draws its value. Most of them plan a draw that always gives a
value (`Provider.planned`).
-/

namespace MockData

/-- What a provider knows of the record that it makes a value for: its index, counted from zero, and
the time that relative dates refer to. -/
structure RecordContext where
  index : UInt64
  locale : Locale
  reference : Timestamp

/-- Why a call of a provider fails. The last cause ends the program: there is nothing to draw from,
what is drawn lies beyond the calendar, or no list is long enough for it. -/
inductive ProviderError where
  | invalid (path : String) (fault : ArgumentFault)
  | failed (reason : String)
  | emptyRange
  deriving DecidableEq

namespace ProviderError

def message : ProviderError → String
  | .invalid path fault => path ++ ": " ++ fault.text
  | .failed reason => reason
  | .emptyRange => "cannot draw from an empty range"

end ProviderError

abbrev Provider (σ : Type) := RecordContext → Option Json → Draw σ (Except ProviderError Json)

/-- A rejected call. `drawn` words of 64 bits were drawn before the fault was found. -/
inductive Rejection where
  | fault (fault : ArgumentFault) (drawn : Nat)
  | emptyRange
  deriving DecidableEq

namespace Rejection

def because (reason : String) : Rejection := .fault (.refused reason) 0

end Rejection

/-- What accepted arguments lead to: a rejection, or a draw for every record. -/
abbrev Plan (σ : Type) := Except Rejection (RecordContext → Draw σ Json)

/-- A draw from a range, which must not be empty. -/
def Plan.drawing {σ : Type} (inhabited : Bool) (draw : RecordContext → Draw σ Json) : Plan σ :=
  if inhabited then .ok draw else .error .emptyRange

namespace Provider

variable {σ : Type} [RandomSource σ]

/-- Draws `n` words of 64 bits for nothing. -/
def spend : Nat → Draw σ Unit
  | 0 => pure ()
  | n + 1 => do
    let _ ← Draw.word64
    spend n

/-- Checks the arguments, reaches a verdict on them and the reference time, and carries it out. -/
def decided {δ : Type} (path : String) (parameters : List Parameter)
    (verdict : Timestamp → Arguments → Except Rejection δ)
    (carry : RecordContext → δ → Draw σ (Except ProviderError Json)) : Provider σ :=
  fun context params => do
  match Arguments.read parameters params with
  | .error fault => return .error (.invalid path fault)
  | .ok arguments =>
    match verdict context.reference arguments with
    | .error (.fault fault drawn) =>
      spend drawn
      return .error (.invalid path fault)
    | .error .emptyRange => return .error .emptyRange
    | .ok accepted => carry context accepted

def drawPlanned (context : RecordContext) (draw : RecordContext → Draw σ Json) :
    Draw σ (Except ProviderError Json) := do
  return .ok (← draw context)

/-- The verdict is a draw that always gives a value. -/
def planned (path : String) (parameters : List Parameter) (plan : Timestamp → Arguments → Plan σ) :
    Provider σ := decided path parameters plan drawPlanned

end Provider

end MockData
