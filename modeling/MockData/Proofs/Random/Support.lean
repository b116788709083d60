import Mathlib.Data.Set.Image
import MockData.Proofs.Random.Draws

/-!
# What a draw may give

The support of a draw is what it gives for some stream of words. A draw reaches a value if a few
words lead to it wherever they stand; such words are put one behind the other for draws that follow
each other. With the bounds of a draw this settles its support: a number drawn below `n`, or between
two bounds, may be every such number, and a repeated draw may be every list of what a single one
may be. `Draw.Yields` says of a draw from any source what it gives and that it may give all of it.
-/

namespace MockData

namespace Script

def Starts (s : Script) (words : List UInt64) : Prop :=
  ∀ i w, words[i]? = some w → s.word (s.position + i) = w

def skip (s : Script) (n : Nat) : Script := { s with position := s.position + n }

def ofWords (words : List UInt64) : Script := ⟨fun i => words.getD i 0, 0⟩

theorem starts_ofWords (words : List UInt64) : (ofWords words).Starts words := by
  intro i w found
  simp [ofWords, found]

theorem starts_append {s : Script} {words more : List UInt64} (starts : s.Starts (words ++ more)) :
    s.Starts words ∧ (s.skip words.length).Starts more := by
  constructor
  · intro i w found
    apply starts i w
    have inside := (List.getElem?_eq_some_iff.mp found).1
    rwa [List.getElem?_append_left inside]
  · intro i w found
    have later := starts (words.length + i) w (by
      rwa [List.getElem?_append_right (Nat.le_add_right _ _), Nat.add_sub_cancel_left])
    rwa [← Nat.add_assoc] at later

theorem skip_skip (s : Script) (n m : Nat) : (s.skip n).skip m = s.skip (n + m) := by
  simp [skip, Nat.add_assoc]

end Script

namespace Draw

variable {α β : Type}

def support (d : Draw Script α) : Set α := Set.range fun s => (d s).1

/-- A few words make the draw give the value, wherever they stand in a script. -/
def Reaches (d : Draw Script α) (a : α) : Prop :=
  ∃ words : List UInt64, ∀ s : Script, s.Starts words → d s = (a, s.skip words.length)

namespace Reaches

theorem of_pure (a : α) : Reaches (pure a : Draw Script α) a := ⟨[], fun _ _ => rfl⟩

theorem bind {d : Draw Script α} {f : α → Draw Script β} {a : α} {b : β} (first : Reaches d a)
    (next : Reaches (f a) b) : Reaches (d >>= f) b := by
  obtain ⟨words, drawn⟩ := first
  obtain ⟨more, then'⟩ := next
  refine ⟨words ++ more, fun s starts => ?_⟩
  obtain ⟨here, behind⟩ := Script.starts_append starts
  rw [bind_apply, drawn s here, then' _ behind, Script.skip_skip, List.length_append]

theorem map {d : Draw Script α} {a : α} (reached : Reaches d a) (f : α → β) :
    Reaches (f <$> d) (f a) := by
  have next : Reaches (pure (f a) : Draw Script β) (f a) := of_pure (f a)
  exact reached.bind (f := fun a => pure (f a)) next

theorem mem_support {d : Draw Script α} {a : α} (reached : Reaches d a) : a ∈ d.support := by
  obtain ⟨words, drawn⟩ := reached
  exact ⟨.ofWords words, congrArg Prod.fst (drawn _ (Script.starts_ofWords words))⟩

end Reaches

theorem support_eq {d : Draw Script α} {P : α → Prop} (stays : ∀ s, P (d s).1)
    (reached : ∀ a, P a → Reaches d a) : d.support = {a | P a} := by
  ext a
  constructor
  · rintro ⟨s, rfl⟩
    exact stays s
  · exact fun holds => (reached a holds).mem_support

theorem support_map (d : Draw Script α) (f : α → β) : support (f <$> d) = f '' d.support :=
  Set.range_comp f fun s => (d s).1

/-! ### Words -/

theorem word64_reaches {w : Nat} (word : w < 0x10000000000000000) : Reaches word64 w := by
  refine ⟨[UInt64.ofNat w], fun s starts => ?_⟩
  have next : s.word s.position = UInt64.ofNat w := starts 0 _ rfl
  have value : (UInt64.ofNat w).toNat = w := UInt64.toNat_ofNat_of_lt' word
  show ((s.word s.position).toNat, s.skip 1) = _
  rw [next, value]
  rfl

theorem word32_reaches {w : Nat} (word : w < 0x100000000) : Reaches word32 w := by
  refine ⟨[UInt64.ofNat w], fun s starts => ?_⟩
  have next : s.word s.position = UInt64.ofNat w := starts 0 _ rfl
  have value : (UInt64.ofNat w).toUInt32.toNat = w := by
    rw [UInt64.toNat_toUInt32, UInt64.toNat_ofNat_of_lt' (by simp only [UInt64.size]; omega)]
    exact Nat.mod_eq_of_lt word
  show ((s.word s.position).toUInt32.toNat, s.skip 1) = _
  rw [next, value]
  rfl

/-! ### Bounded numbers -/

/-- Every number below `n` is what some word is scaled to: the least word that reaches so far. -/
theorem exists_scaled {modulus n k : Nat} (within : n ≤ modulus) (below : k < n) :
    ∃ w, w < modulus ∧ w * n / modulus = k := by
  have exact := Nat.div_add_mod (k * modulus + (n - 1)) n
  have remainder := Nat.mod_lt (k * modulus + (n - 1)) (show 0 < n by omega)
  rw [Nat.mul_comm n] at exact
  generalize (k * modulus + (n - 1)) / n = w at exact
  generalize (k * modulus + (n - 1)) % n = rest at exact remainder
  have least : k * modulus ≤ w * n := by omega
  have most : w * n < k * modulus + modulus := by omega
  have total : k * modulus + modulus ≤ n * modulus := by
    rw [← Nat.succ_mul]
    exact Nat.mul_le_mul_right modulus below
  refine ⟨w, ?_, ?_⟩
  · rw [Nat.mul_comm n] at total
    exact Nat.lt_of_mul_lt_mul_right (show w * n < modulus * n by omega)
  · apply Nat.div_eq_of_lt_le
    · exact least
    · rwa [Nat.succ_mul]

theorem belowWith_reaches {modulus n k : Nat} {word : Draw Script Nat}
    (words : ∀ w < modulus, Reaches word w) (within : n ≤ modulus) (below : k < n) :
    Reaches (belowWith modulus word n) k := by
  obtain ⟨w, inside, scaled⟩ := exists_scaled within below
  have positive : 0 < modulus := by omega
  refine (words w inside).bind ?_
  by_cases full : n = modulus
  · rw [full, Nat.mul_div_cancel _ positive] at scaled
    rw [if_pos full, scaled]
    exact Reaches.of_pure k
  · rw [if_neg full]
    dsimp only [scaleWord]
    rw [scaled]
    split
    · -- A second word of zero carries nothing over.
      have low := Nat.mod_lt (w * n) positive
      have kept : carries modulus n w 0 = false := by
        rw [carries, decide_eq_false_iff_not, Nat.zero_mul, Nat.zero_div]
        omega
      refine (words 0 positive).bind ?_
      rw [kept]
      exact Reaches.of_pure k
    · exact Reaches.of_pure k

theorem below64_reaches {n k : Nat} (within : n ≤ 0x10000000000000000) (below : k < n) :
    Reaches (below64 n) k :=
  belowWith_reaches (fun _ => word64_reaches) within below

theorem index_reaches {n k : Nat} (within : n ≤ 0x10000000000000000) (below : k < n) :
    Reaches (index n) k := by
  unfold index
  split
  · rename_i short
    exact belowWith_reaches (fun _ => word32_reaches) short below
  · exact below64_reaches within below

theorem support_index {n : Nat} (positive : 0 < n) (within : n ≤ 0x10000000000000000) :
    support (index n) = {k | k < n} :=
  support_eq (index_lt positive) fun _ => index_reaches within

theorem between64_reaches {min max n : Nat} (word : max < 0x10000000000000000) (least : min ≤ n)
    (most : n ≤ max) : Reaches (between64 min max) n := by
  have offset : Reaches (below64 (max - min + 1)) (n - min) :=
    below64_reaches (by omega) (by omega)
  have reached := offset.map fun k => min + k
  rwa [Nat.add_sub_cancel' least] at reached

theorem support_between64 {min max : Nat} (ordered : min ≤ max)
    (word : max < 0x10000000000000000) :
    support (between64 min max) = {n | min ≤ n ∧ n ≤ max} :=
  support_eq (between64_bounds ordered) fun _ within => between64_reaches word within.1 within.2

/-! ### Repeated draws -/

theorem loop_stays {σ : Type} {P : α → Prop} {d : Draw σ α} (stays : ∀ s, P (d s).1) (n : Nat)
    (done : List α) (s : σ) : ∃ more : List α,
      (replicate.loop d n done s).1 = done.reverse ++ more ∧ more.length = n ∧ ∀ a ∈ more, P a := by
  induction n generalizing done s with
  | zero => exact ⟨[], (List.append_nil _).symm, rfl, List.forall_mem_nil _⟩
  | succ n ih =>
    obtain ⟨more, result, length, all⟩ := ih ((d s).1 :: done) (d s).2
    refine ⟨(d s).1 :: more, ?_, by rw [List.length_cons, length],
      List.forall_mem_cons.mpr ⟨stays s, all⟩⟩
    rw [List.reverse_cons, List.append_assoc] at result
    exact result

theorem loop_reaches {d : Draw Script α} (as done : List α) (reached : ∀ a ∈ as, Reaches d a) :
    Reaches (replicate.loop d as.length done) (done.reverse ++ as) := by
  induction as generalizing done with
  | nil =>
    rw [List.append_nil]
    exact Reaches.of_pure done.reverse
  | cons a rest ih =>
    obtain ⟨first, others⟩ := List.forall_mem_cons.mp reached
    have behind := ih (a :: done) others
    rw [List.reverse_cons, List.append_assoc] at behind
    exact first.bind behind

theorem replicate_stays {σ : Type} {P : α → Prop} {d : Draw σ α} (stays : ∀ s, P (d s).1)
    (n : Nat) (s : σ) : (replicate n d s).1.length = n ∧ ∀ a ∈ (replicate n d s).1, P a := by
  obtain ⟨more, result, length, all⟩ := loop_stays stays n [] s
  have same : (replicate n d s).1 = more := result
  rw [same]
  exact ⟨length, all⟩

theorem support_replicate {P : α → Prop} {d : Draw Script α} (stays : ∀ s, P (d s).1)
    (reached : ∀ a, P a → Reaches d a) (n : Nat) :
    support (replicate n d) = {as | as.length = n ∧ ∀ a ∈ as, P a} := by
  apply support_eq (replicate_stays stays n)
  rintro as ⟨rfl, all⟩
  exact loop_reaches as [] fun a member => reached a (all a member)

/-! ### Draws from any source -/

/-- The draw gives what has the property: nothing else from any source, and all of it from streams
of words. -/
structure Yields (d : ∀ {σ : Type} [RandomSource σ], Draw σ α) (P : α → Prop) : Prop where
  stays : ∀ {σ : Type} [RandomSource σ] (s : σ), P (d s).1
  reached : ∀ a, P a → Reaches d a

namespace Yields

variable {d : ∀ {σ : Type} [RandomSource σ], Draw σ α} {P : α → Prop}

theorem map (yields : Yields d P) (f : α → β) : Yields (f <$> d) fun b => ∃ a, P a ∧ f a = b where
  stays s := ⟨(d s).1, yields.stays s, rfl⟩
  reached b has := by
    obtain ⟨a, holds, rfl⟩ := has
    exact (yields.reached a holds).map f

theorem replicate (yields : Yields d P) (n : Nat) :
    Yields (Draw.replicate n d) fun as => as.length = n ∧ ∀ a ∈ as, P a where
  stays s := replicate_stays yields.stays n s
  reached as has := by
    obtain ⟨rfl, all⟩ := has
    exact loop_reaches as [] fun a member => yields.reached a (all a member)

theorem of_iff (yields : Yields d P) {Q : α → Prop} (same : ∀ a, P a ↔ Q a) : Yields d Q where
  stays s := (same _).mp (yields.stays s)
  reached a has := yields.reached a ((same a).mpr has)

theorem of_eq {e : ∀ {σ : Type} [RandomSource σ], Draw σ α} (yields : Yields d P)
    (same : ∀ {σ : Type} [RandomSource σ], (e : Draw σ α) = d) : Yields e P where
  stays s := by
    rw [same]
    exact yields.stays s
  reached a has := by
    rw [same]
    exact yields.reached a has

end Yields

theorem yields_index {n : Nat} (positive : 0 < n) (within : n ≤ 0x10000000000000000) :
    Yields (index n) fun k => k < n where
  stays s := index_lt positive s
  reached _ below := index_reaches within below

end Draw

end MockData
