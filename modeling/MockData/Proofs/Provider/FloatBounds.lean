import MockData.Proofs.Numeric.Places
import MockData.Proofs.Provider.ContextUse
import MockData.Proofs.Provider.FloatRange

/-!
# Floats as they are shown

Four providers draw a float between two bounds and show it: as it is, rounded to decimal places, or
as text with decimal places. The draw stays within the bounds, but rounding may lead out of them
again (`float_outside_bounds`). What is shown lies between the bounds as they would be shown
themselves, and so within bounds that the places can show exactly (`shown_floats_within`).
-/

namespace MockData

open Binary64 Rounded

theorem Draw.map_apply {σ α β : Type} (f : α → β) (d : Draw σ α) (s : σ) :
    (f <$> d) s = (f (d s).1, (d s).2) := rfl

theorem Draw.bind_pure_apply {σ α β : Type} (d : Draw σ α) (f : α → β) (s : σ) :
    (d >>= fun x => pure (f x)) s = (f (d s).1, (d s).2) := rfl

inductive Display where
  | plain
  | rounded (places : Nat)
  | text (places : Nat)
  deriving DecidableEq

namespace Display

def render : Display → Binary64 → Json
  | .plain, x => .number (.float x)
  | .rounded places, x => .ofRounded (x.roundPlaces places)
  | .text places, x => .string ((x.roundPlaces places).fixedText places)

/-- The number that is read off a float or a text, exactly. Nothing is read off `null` or `inf`. -/
def quantity? : Json → Option ℚ
  | .number (.float x) => some x.value
  | .string written => decimalValue? written
  | _ => none

/-- Rounding to more than 15 places is not supported. -/
def Supported : Display → Prop
  | .plain => True
  | .rounded places => places ≤ 15
  | .text places => places ≤ 15

def Exact : Display → Binary64 → Prop
  | .plain, _ => True
  | .rounded places, x => IsExactAt places x
  | .text places, x => IsExactAt places x

variable {display : Display} {x low high : Binary64}

theorem quantity?_rounded {r : Rounded} {q : ℚ} (reads : quantity? (.ofRounded r) = some q) :
    ∃ y, r = .finite y ∧ y.value = q := by
  cases r with
  | finite y => exact ⟨y, rfl, Option.some.inj reads⟩
  | infinite negative => exact nomatch reads

theorem decimalValue?_infinite (negative : Bool) :
    decimalValue? (if negative then "-inf" else "inf") = none := by
  cases negative <;> decide +kernel

theorem quantity?_text {r : Rounded} {places : Nat} {q : ℚ}
    (reads : quantity? (.string (r.fixedText places)) = some q) :
    ∃ y, r = .finite y ∧ fixedValue places y = q := by
  cases r with
  | finite y =>
    have written := decimalValue?_fixedText y places
    exact ⟨y, rfl, Option.some.inj (written.symm.trans reads)⟩
  | infinite negative => exact nomatch (decimalValue?_infinite negative).symm.trans reads

theorem quantity?_between (supported : display.Supported) {l h : ℚ}
    (readsLow : quantity? (display.render low) = some l)
    (readsHigh : quantity? (display.render high) = some h) (above : low.value ≤ x.value)
    (below : x.value ≤ high.value) :
    ∃ q, quantity? (display.render x) = some q ∧ l ≤ q ∧ q ≤ h := by
  cases display with
  | plain =>
    cases readsLow
    cases readsHigh
    exact ⟨x.value, rfl, above, below⟩
  | rounded places =>
    obtain ⟨y, shownLow, rfl⟩ := quantity?_rounded readsLow
    obtain ⟨z, shownHigh, rfl⟩ := quantity?_rounded readsHigh
    obtain ⟨w, shown, least, most⟩ := roundPlaces_between supported shownLow shownHigh above below
    refine ⟨w.value, ?_, least, most⟩
    rw [render, shown]
    rfl
  | text places =>
    obtain ⟨y, shownLow, rfl⟩ := quantity?_text readsLow
    obtain ⟨z, shownHigh, rfl⟩ := quantity?_text readsHigh
    obtain ⟨w, shown, least, most⟩ := roundPlaces_between supported shownLow shownHigh above below
    refine ⟨fixedValue places w, ?_, fixedValue_mono least, fixedValue_mono most⟩
    rw [render, shown]
    exact decimalValue?_fixedText w places

theorem quantity?_exact (supported : display.Supported) (exact_places : display.Exact x) :
    quantity? (display.render x) = some x.value := by
  cases display with
  | plain => rfl
  | rounded places =>
    obtain ⟨y, shown, value⟩ := roundPlaces_exact supported exact_places
    rw [render, shown, ← value]
    rfl
  | text places =>
    obtain ⟨y, shown, value⟩ := roundPlaces_exact supported exact_places
    have still : IsExactAt places y := by
      obtain ⟨k, number, multiple, same⟩ := exact_places
      exact ⟨k, number, by rw [value]; exact multiple, same⟩
    rw [render, shown, ← value, ← fixedValue_exact still]
    exact decimalValue?_fixedText y places

end Display

theorem exists_of_isFinite {r : Rounded} (finite : r.isFinite = true) : ∃ x, r = .finite x := by
  cases r with
  | finite x => exact ⟨x, rfl⟩
  | infinite negative => exact nomatch finite

theorem value_le_of_not_lt {x y : Binary64} (ordered : ¬(y.lt x) = true) : x.value ≤ y.value := by
  rw [lt_iff_value] at ordered
  exact not_lt.mp ordered

namespace Numbers

theorem digits?_eq_some {count : UInt64} {places : Nat} (found : digits? count = some places) :
    places = count.toNat ∧ places ≤ 15 := by
  unfold digits? at found
  split at found
  · cases found
    exact ⟨rfl, ‹_›⟩
  · exact nomatch found

variable {σ : Type} [RandomSource σ]

/-- Whatever is drawn, the call shows a float between the bounds. -/
structure ShowsBetween (min max : Binary64) (display : Display)
    (outcome : Draw σ (Except ProviderError Json)) : Prop where
  supported : display.Supported
  shows : ∀ s, ∃ x, min.value ≤ x.value ∧ x.value ≤ max.value ∧
    (outcome s).1 = .ok (display.render x)

def floatDisplay (a : Arguments) : Display :=
  match a.count? "fractionDigits" with
  | none => .plain
  | some count => .rounded count.toNat

variable {c : RecordContext} {args : Option Json} {a : Arguments} {t : σ} {v : Json}

theorem float_shows (accepted : Arguments.read floatParameters args = .ok a)
    (given : (float c args t).1 = .ok v) :
    ShowsBetween (σ := σ) ((a.float? "min").getD .zero) ((a.float? "max").getD tenThousand)
      (floatDisplay a) (float c args) := by
  obtain ⟨draw, made, draws⟩ := Provider.planned_ok accepted given
  dsimp only at made
  split at made
  · exact nomatch made
  rename_i ordered
  split at made
  · exact nomatch made
  rename_i width found
  have fits := width?_fits (value_le_of_not_lt ordered) found
  split at made
  · rename_i absent
    cases made
    have display : floatDisplay a = .plain := by rw [floatDisplay, absent]
    rw [display]
    refine ⟨trivial, fun s => ?_⟩
    obtain ⟨x, drawn, least, most⟩ := floatFrom_between fits s
    refine ⟨x, least, most, ?_⟩
    rw [float, draws]
    dsimp only
    rw [Draw.map_apply, drawn]
    rfl
  · rename_i count present
    split at made
    · exact nomatch made
    rename_i places supported
    cases made
    obtain ⟨rfl, few⟩ := digits?_eq_some supported
    have display : floatDisplay a = .rounded count.toNat := by rw [floatDisplay, present]
    rw [display]
    refine ⟨few, fun s => ?_⟩
    obtain ⟨x, drawn, least, most⟩ := floatFrom_between fits s
    refine ⟨x, least, most, ?_⟩
    rw [float, draws]
    dsimp only
    rw [Draw.bind_pure_apply, drawn, finite_bind]
    rfl

theorem amount_shows (accepted : Arguments.read amountParameters args = .ok a)
    (given : (amount c args t).1 = .ok v) :
    ShowsBetween (σ := σ) ((a.float? "min").getD .zero) ((a.float? "max").getD oneThousand)
      (.text ((a.count? "dec").getD 2).toNat) (amount c args) := by
  obtain ⟨draw, made, draws⟩ := Provider.planned_ok accepted given
  dsimp only at made
  split at made
  · exact nomatch made
  rename_i ordered
  split at made
  · exact nomatch made
  rename_i places supported
  split at made
  · exact nomatch made
  rename_i width found
  cases made
  obtain ⟨rfl, few⟩ := digits?_eq_some supported
  refine ⟨few, fun s => ?_⟩
  have fits := width?_fits (value_le_of_not_lt ordered) found
  obtain ⟨x, drawn, least, most⟩ := floatFrom_between fits s
  refine ⟨x, least, most, ?_⟩
  rw [amount, draws]
  dsimp only
  rw [Draw.bind_pure_apply, drawn, finite_bind]
  rfl

theorem coordinate_shows {path : String} {bound : Binary64} {boundText : String}
    (accepted : Arguments.read coordinateParameters args = .ok a)
    (given : (coordinate path bound boundText c args t).1 = .ok v) :
    ShowsBetween (σ := σ) ((a.float? "min").getD bound.neg) ((a.float? "max").getD bound)
      (.rounded ((a.count? "precision").getD 4).toNat) (coordinate path bound boundText c args) := by
  obtain ⟨draw, made, draws⟩ := Provider.planned_ok accepted given
  dsimp only at made
  split at made
  · exact nomatch made
  split at made
  · exact nomatch made
  rename_i places supported
  unfold Plan.drawing at made
  split at made
  · rename_i guard
    cases made
    obtain ⟨rfl, few⟩ := digits?_eq_some supported
    rw [Bool.and_eq_true, le_iff_value] at guard
    obtain ⟨ordered, finite⟩ := guard
    obtain ⟨width, difference⟩ := exists_of_isFinite finite
    have distance := (difference ▸ rounds_sub _ _).value.1
    have fits := fits_of_le ordered (distance ▸ nearest_nonneg (sub_nonneg.mpr ordered)) distance.le
    refine ⟨few, fun s => ?_⟩
    obtain ⟨f, fraction, low, high⟩ := Draw.fraction_bounds s
    obtain ⟨x, drawn, least, most⟩ := fits.between low high
    obtain ⟨offset, product, sum⟩ := bind_finite.mp drawn
    refine ⟨x, least, most, ?_⟩
    rw [coordinate, draws]
    dsimp only
    rw [Draw.bind_pure_apply, fraction, finite_bind, difference, finite_bind, product, finite_bind,
      sum, finite_bind]
    rfl
  · exact nomatch made

end Numbers

structure FloatCall (σ : Type) where
  provider : Provider σ
  parameters : List Parameter
  least : Binary64
  most : Binary64
  display : Arguments → Display

namespace FloatCall

variable {σ : Type} [RandomSource σ]

def min (call : FloatCall σ) (a : Arguments) : Binary64 := (a.float? "min").getD call.least

def max (call : FloatCall σ) (a : Arguments) : Binary64 := (a.float? "max").getD call.most

def float : FloatCall σ :=
  ⟨Numbers.float, Numbers.floatParameters, .zero, Numbers.tenThousand, Numbers.floatDisplay⟩

def amount : FloatCall σ :=
  ⟨Numbers.amount, Numbers.amountParameters, .zero, Numbers.oneThousand, fun a =>
    .text ((a.count? "dec").getD 2).toNat⟩

def latitude : FloatCall σ :=
  ⟨Numbers.latitude, Numbers.coordinateParameters, Numbers.ninety.neg, Numbers.ninety, fun a =>
    .rounded ((a.count? "precision").getD 4).toNat⟩

def longitude : FloatCall σ :=
  ⟨Numbers.longitude, Numbers.coordinateParameters, Numbers.oneHundredEighty.neg,
    Numbers.oneHundredEighty, fun a => .rounded ((a.count? "precision").getD 4).toNat⟩

def all : List (FloatCall σ) := [float, amount, latitude, longitude]

theorem shows_of_mem : ∀ call ∈ (all : List (FloatCall σ)), ∀ {args a},
    Arguments.read call.parameters args = .ok a → ∀ {c} {t : σ} {v},
      (call.provider c args t).1 = .ok v →
        Numbers.ShowsBetween (call.min a) (call.max a) (call.display a) (call.provider c args) := by
  simp only [all, List.forall_mem_cons]
  exact ⟨fun accepted _ _ _ => Numbers.float_shows accepted,
    fun accepted _ _ _ => Numbers.amount_shows accepted,
    fun accepted _ _ _ => Numbers.coordinate_shows accepted,
    fun accepted _ _ _ => Numbers.coordinate_shows accepted, List.forall_mem_nil _⟩

end FloatCall

/-- A call of a provider of floats that gives a value once gives one for every stream. Its number
lies between the bounds as the call would show them. So it is a number between the bounds themselves
if nothing is rounded, or if the places are enough for both bounds. -/
theorem shown_floats_within {σ : Type} [RandomSource σ] {call : FloatCall σ}
    (listed : call ∈ FloatCall.all) {args : Option Json} {a : Arguments}
    (accepted : Arguments.read call.parameters args = .ok a) {c : RecordContext} {t : σ} {v : Json}
    (given : (call.provider c args t).1 = .ok v) :
    let min := call.min a
    let max := call.max a
    let display := call.display a
    (∀ low high, Display.quantity? (display.render min) = some low →
      Display.quantity? (display.render max) = some high →
      ∀ s, ∃ shown q, (call.provider c args s).1 = .ok shown ∧ Display.quantity? shown = some q ∧
        low ≤ q ∧ q ≤ high) ∧
    (display.Exact min → display.Exact max →
      ∀ s, ∃ shown q, (call.provider c args s).1 = .ok shown ∧ Display.quantity? shown = some q ∧
        min.value ≤ q ∧ q ≤ max.value) := by
  intro min max display
  obtain ⟨supported, shows⟩ := FloatCall.shows_of_mem call listed accepted given
  have between : ∀ low high, Display.quantity? (display.render min) = some low →
      Display.quantity? (display.render max) = some high →
      ∀ s, ∃ shown q, (call.provider c args s).1 = .ok shown ∧ Display.quantity? shown = some q ∧
        low ≤ q ∧ q ≤ high := by
    intro low high readsLow readsHigh s
    obtain ⟨x, least, most, shown⟩ := shows s
    obtain ⟨q, reads, above, below⟩ :=
      Display.quantity?_between supported readsLow readsHigh least most
    exact ⟨_, q, shown, reads, above, below⟩
  refine ⟨between, fun exactMin exactMax => ?_⟩
  exact between _ _ (Display.quantity?_exact supported exactMin)
    (Display.quantity?_exact supported exactMax)

theorem exists_of_isOk {ε α : Type} {result : Except ε α} (ok : result.isOk = true) :
    ∃ v, result = .ok v := by
  cases result with
  | ok v => exact ⟨v, rfl⟩
  | error e => exact nomatch ok

theorem value_tenThousand : Numbers.tenThousand.value = 10000 := by
  rw [value_eq, if_neg (by decide)]
  norm_num [Numbers.tenThousand, Nat.shiftLeft_eq]

theorem shown_floats_within_default :
    let c : RecordContext := ⟨0, .enUS, .midnight 0⟩
    let args := some (Json.object [("fractionDigits", .ofUInt64 3)])
    ∀ s : Script, ∃ shown q, (Numbers.float c args s).1 = .ok shown ∧
      Display.quantity? shown = some q ∧ 0 ≤ q ∧ q ≤ 10000 := by
  intro c args s
  have listed : FloatCall.float ∈ (FloatCall.all : List (FloatCall Script)) := List.mem_cons_self
  have accepted : Arguments.read Numbers.floatParameters args =
      .ok ⟨[("fractionDigits", .ofUInt64 3)]⟩ := rfl
  have drawn : (FloatCall.float.provider c args (Script.cycle 0 #[])).1.isOk = true := by
    decide +kernel
  obtain ⟨v, given⟩ := exists_of_isOk drawn
  have least : FloatCall.min (σ := Script) .float ⟨[("fractionDigits", .ofUInt64 3)]⟩ = zero := by
    simp [FloatCall.min, FloatCall.float, Arguments.float?, Arguments.get?, Json.find?, List.lookup_cons]
  have most : FloatCall.max (σ := Script) .float ⟨[("fractionDigits", .ofUInt64 3)]⟩ =
      Numbers.tenThousand := by
    simp [FloatCall.max, FloatCall.float, Arguments.float?, Arguments.get?, Json.find?, List.lookup_cons]
  have zero_value : Binary64.zero.value = 0 := value_eq_zero rfl
  have within := (shown_floats_within listed accepted given).2
  rw [least, most, zero_value, value_tenThousand] at within
  exact within (isExactAt_int (n := 0) (by simpa using zero_value) (by decide))
    (isExactAt_int (n := 10000) (by simpa using value_tenThousand) (by decide)) s

/-- Rounded to no places, a float between 1.5 and 1.5 is 2. Between the largest number and itself it
is nothing, or no number, when it is rounded to one place. -/
theorem float_outside_bounds :
    let c : RecordContext := ⟨0, .enUS, .midnight 0⟩
    let s := Script.cycle 0 #[]
    let between (x : Binary64) (key : String) (places : UInt64) : Option Json :=
      some (.object [("min", .number (.float x)), ("max", .number (.float x)),
        (key, .ofUInt64 places)])
    let middle : Binary64 :=
      ⟨false, 0x18000000000000, -52, by decide, by decide, by decide, by decide⟩
    let largest : Binary64 :=
      ⟨false, 0x1fffffffffffff, 971, by decide, by decide, by decide, by decide⟩
    (middle.value = 3 / 2 ∧ ∃ x : Binary64, x.value = 2 ∧
      (Numbers.float c (between middle "fractionDigits" 0) s).1 = .ok (.number (.float x))) ∧
    (Numbers.float c (between largest "fractionDigits" 1) s).1 = .ok .null ∧
    (Numbers.amount c (between largest "dec" 1) s).1 = .ok (.string "inf") := by
  intro c s between middle largest
  refine ⟨⟨?_, ⟨false, 0x10000000000000, -51, by decide, by decide, by decide, by decide⟩, ?_, ?_⟩,
    ?_, ?_⟩
  · rw [value_eq, if_neg (by decide)]
    norm_num [middle]
  · rw [value_eq, if_neg (by decide)]
    norm_num
  · decide +kernel
  · decide +kernel
  · decide +kernel

end MockData
