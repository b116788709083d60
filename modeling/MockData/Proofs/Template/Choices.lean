import Mathlib.Data.List.GetD
import MockData.Proofs.Provider.ContextUse
import MockData.Proofs.Random.Support
import MockData.Proofs.Template.Laws

/-!
# What is left to chance

The length of a repeated element, the option of a choice, an integer between bounds, a member of a
list and the characters of a string are drawn. Each of them may be everything that its description
allows, and nothing else: `bounded_choices`.
-/

namespace MockData

open Draw

/-! ### Integers -/

namespace Numbers

theorem toInt_offset {min max : Int64} {n : Nat}
    (inside : n < (max.toInt - min.toInt + 1).toNat) :
    (Int64.ofInt (min.toInt + n)).toInt = min.toInt + n := by
  have least := min.le_toInt
  have most := max.toInt_lt
  exact Int64.toInt_ofInt_of_le (by omega) (by omega)

theorem exists_word (k : Int64) : ∃ n : Nat, n < 0x10000000000000000 ∧ Int64.ofInt n = k := by
  refine ⟨(k.toInt % 0x10000000000000000).toNat, by omega, ?_⟩
  rw [← Int64.toInt_inj, Int64.toInt_ofInt, Int.toNat_of_nonneg (by omega)]
  exact (Int.emod_bmod k.toInt _).trans k.toInt_bmod

theorem intBetween_bounds {min max : Int64} (ordered : min.toInt ≤ max.toInt) (s : Script) :
    min.toInt ≤ (intBetween min max s).1.toInt ∧ (intBetween min max s).1.toInt ≤ max.toInt := by
  have inside := below64_lt (show 0 < (max.toInt - min.toInt + 1).toNat by omega) s
  have value : (intBetween min max s).1 =
      Int64.ofInt (if (max.toInt - min.toInt + 1).toNat = 0x10000000000000000
        then (below64 (max.toInt - min.toInt + 1).toNat s).1
        else min.toInt + (below64 (max.toInt - min.toInt + 1).toNat s).1) := rfl
  by_cases full : (max.toInt - min.toInt + 1).toNat = 0x10000000000000000
  · -- The bounds are the least and the largest integer.
    have least := min.le_toInt
    have most := max.toInt_lt
    have above := (intBetween min max s).1.le_toInt
    have below := (intBetween min max s).1.toInt_lt
    omega
  · rw [if_neg full] at value
    rw [value, toInt_offset inside]
    omega

theorem intBetween_reaches {min max k : Int64} (above : min.toInt ≤ k.toInt)
    (below : k.toInt ≤ max.toInt) : Reaches (intBetween min max) k := by
  have least := min.le_toInt
  have most := max.toInt_lt
  unfold intBetween
  by_cases full : (max.toInt - min.toInt + 1).toNat = 0x10000000000000000
  · obtain ⟨n, word, rfl⟩ := exists_word k
    have drawn : Reaches (below64 (max.toInt - min.toInt + 1).toNat) n :=
      below64_reaches (Nat.le_of_eq full) (by omega)
    refine drawn.bind ?_
    rw [if_pos full]
    exact Reaches.of_pure _
  · have drawn : Reaches (below64 (max.toInt - min.toInt + 1).toNat) (k.toInt - min.toInt).toNat :=
      below64_reaches (by omega) (by omega)
    have value : min.toInt + ((k.toInt - min.toInt).toNat : Int) = k.toInt := by omega
    refine drawn.bind ?_
    rw [if_neg full, value, Int64.ofInt_toInt]
    exact Reaches.of_pure _

theorem support_intBetween {min max : Int64} (ordered : min ≤ max) :
    support (intBetween min max) = {k | min ≤ k ∧ k ≤ max} := by
  simp only [Int64.le_iff_toInt_le] at ordered ⊢
  exact support_eq (intBetween_bounds ordered) fun _ within =>
    intBetween_reaches within.1 within.2

end Numbers

/-! ### Characters -/

namespace Strings

theorem pickChar_mem {alphabet : List Char} (inhabited : alphabet ≠ []) (s : Script) :
    (pickChar alphabet s).1 ∈ alphabet := by
  have inside := index_lt (List.length_pos_of_ne_nil inhabited) s
  show alphabet.getD (index alphabet.length s).1 'a' ∈ alphabet
  rw [List.getD_eq_getElem _ _ inside]
  exact List.getElem_mem inside

theorem pickChar_reaches {alphabet : List Char} (small : alphabet.length ≤ 0x10000000000000000)
    {c : Char} (member : c ∈ alphabet) : Reaches (pickChar alphabet) c := by
  obtain ⟨i, inside, rfl⟩ := List.getElem_of_mem member
  have reached := (index_reaches small inside).map fun i => alphabet.getD i 'a'
  rwa [List.getD_eq_getElem _ _ inside] at reached

end Strings

/-! ### Providers -/

namespace Provider

variable {path : String} {parameters : List Parameter} {context : RecordContext}
  {args : Option Json} {a : Arguments}

/-- With accepted arguments a provider may give what its plan may draw. -/
theorem support_planned {plan : Timestamp → Arguments → Plan Script}
    {draw : RecordContext → Draw Script Json}
    (accepted : Arguments.read parameters args = .ok a)
    (made : plan context.reference a = .ok draw) :
    support (planned path parameters plan context args) =
      Except.ok '' support (draw context) := by
  rw [planned_accepted accepted, made]
  exact support_map (draw context) Except.ok

end Provider

variable {args : Option Json} {a : Arguments}

theorem Numbers.support_int (context : RecordContext)
    (accepted : Arguments.read intParameters args = .ok a)
    (ordered : (a.int? "min").getD 0 ≤ (a.int? "max").getD 10000) :
    support (Numbers.int context args) = (fun k => Except.ok (Json.ofInt64 k)) ''
      {k | (a.int? "min").getD 0 ≤ k ∧ k ≤ (a.int? "max").getD 10000} := by
  have right := Int64.le_iff_toInt_le.mp ordered
  rw [Numbers.int, Provider.support_planned accepted
    ((if_neg (Int.not_lt.mpr right)).trans (Plan.drawing_of (decide_eq_true right) _)),
    support_map, support_intBetween ordered, Set.image_image]

theorem Strings.support_fromAlphabet (path : String) {alphabet : List Char}
    (inhabited : alphabet ≠ []) (small : alphabet.length ≤ 0x10000000000000000)
    (context : RecordContext) (accepted : Arguments.read alphabetParameters args = .ok a) :
    support (fromAlphabet path alphabet context args) =
      (fun cs => Except.ok (Json.string (String.ofList cs))) ''
        {cs | cs.length = ((a.count? "length").getD 1).toNat ∧ ∀ c ∈ cs, c ∈ alphabet} := by
  have characters := support_replicate (pickChar_mem inhabited)
    (fun _ => pickChar_reaches small) ((a.count? "length").getD 1).toNat
  have text := support_map (replicate ((a.count? "length").getD 1).toNat (pickChar alphabet))
    fun cs => Json.string (String.ofList cs)
  rw [characters] at text
  have nonempty : (!alphabet.isEmpty) = true := by simp [inhabited]
  rw [fromAlphabet, Provider.support_planned accepted (Plan.drawing_of nonempty _)]
  exact (congrArg (Except.ok '' ·) text).trans (Set.image_image _ _ _)

theorem Builtin.arrayElement_eq {values : List Json} (inhabited : values ≠ [])
    (context : RecordContext)
    (accepted : Arguments.read [⟨"values", .array, true⟩] args = .ok a)
    (given : a.array? "values" = some values) (s : Script) :
    ∃ inside : (index values.length s).1 < values.length,
      arrayElement context args s =
        (.ok values[(index values.length s).1], (index values.length s).2) := by
  cases values with
  | nil => exact absurd rfl inhabited
  | cons first rest =>
    have inside := index_lt (List.length_pos_of_ne_nil inhabited) s
    refine ⟨inside, ?_⟩
    rw [← List.getD_eq_getElem _ first inside, arrayElement, Provider.planned_accepted accepted,
      given]
    rfl

/-! ### Templates -/

namespace Template

variable (registry : Registry (Provider Script)) (context : RecordContext)

theorem run_oneOf {options : List Template} (inhabited : options ≠ []) (place : Location)
    (s : Script) (usage : Usage) :
    ∃ inside : (index options.length s).1 < options.length,
      (resolve registry context (.oneOf place options)).run ⟨s, usage⟩ =
        (options[(index options.length s).1].resolve registry context).run
          ⟨(index options.length s).2, usage⟩ := by
  have inside := index_lt (List.length_pos_of_ne_nil inhabited) s
  refine ⟨inside, ?_⟩
  exact run_resolve_oneOf registry context (p := ⟨s, usage⟩) rfl inside place

theorem run_range {min max : UInt64} (ordered : min ≤ max) (place : Location) (t : Template)
    (s : Script) (usage : Usage) :
    ∃ count : UInt64, count.toNat = (between64 min.toNat max.toNat s).1 ∧
      (resolve registry context (.array place (.range min max) t)).run ⟨s, usage⟩ =
        (resolve registry context (.array place (.fixed count) t)).run
          ⟨(between64 min.toNat max.toNat s).2, usage⟩ := by
  have bounds := between64_bounds (UInt64.le_iff_toNat_le.mp ordered) s
  obtain ⟨count, drawn⟩ : ∃ count : UInt64,
      count.toNat = (between64 min.toNat max.toNat s).1 :=
    ⟨UInt64.ofNat _, UInt64.toNat_ofNat_of_lt' (Nat.lt_of_le_of_lt bounds.2 max.toNat_lt)⟩
  refine ⟨count, drawn, ?_⟩
  exact run_resolve_range registry context (p := ⟨s, usage⟩) ordered drawn.symm place t

end Template

/-- Each choice with bounds may be everything within them and nothing else: the number of elements of
a repeated element, the index of the option that is resolved, an integer, the index of the member of
a list, and the characters of a string. A list has no more than `2 ^ 64` entries in memory. -/
theorem bounded_choices (registry : Registry (Provider Script)) (context : RecordContext) :
    (∀ (place : Location) (min max : UInt64) (t : Template), min ≤ max →
      support (between64 min.toNat max.toNat) = {n | min.toNat ≤ n ∧ n ≤ max.toNat} ∧
      ∀ s usage, ∃ count : UInt64, count.toNat = (between64 min.toNat max.toNat s).1 ∧
        (Template.resolve registry context (.array place (.range min max) t)).run ⟨s, usage⟩ =
          (Template.resolve registry context (.array place (.fixed count) t)).run
            ⟨(between64 min.toNat max.toNat s).2, usage⟩) ∧
    (∀ (place : Location) (options : List Template), options ≠ [] →
      (options.length ≤ 0x10000000000000000 →
        support (index options.length) = {i | i < options.length}) ∧
      ∀ s usage, ∃ inside : (index options.length s).1 < options.length,
        (Template.resolve registry context (.oneOf place options)).run ⟨s, usage⟩ =
          (options[(index options.length s).1].resolve registry context).run
            ⟨(index options.length s).2, usage⟩) ∧
    (∀ args a, Arguments.read Numbers.intParameters args = .ok a →
      let min := (a.int? "min").getD 0
      let max := (a.int? "max").getD 10000
      min ≤ max → support (Numbers.int context args) =
        (fun k => Except.ok (Json.ofInt64 k)) '' {k | min ≤ k ∧ k ≤ max}) ∧
    (∀ args a values, Arguments.read [⟨"values", .array, true⟩] args = .ok a →
      a.array? "values" = some values → values ≠ [] →
      (values.length ≤ 0x10000000000000000 →
        support (index values.length) = {i | i < values.length}) ∧
      ∀ s : Script, ∃ inside : (index values.length s).1 < values.length,
        Builtin.arrayElement context args s =
          (.ok values[(index values.length s).1], (index values.length s).2)) ∧
    ∀ entry ∈ [(Strings.alpha, Strings.letters),
        (Strings.alphanumeric, Strings.letters ++ Strings.digits),
        (Strings.numeric, Strings.digits)],
      ∀ args a, Arguments.read Strings.alphabetParameters args = .ok a →
        support (entry.1 context args) = (fun cs => Except.ok (Json.string (String.ofList cs))) ''
          {cs | cs.length = ((a.count? "length").getD 1).toNat ∧ ∀ c ∈ cs, c ∈ entry.2} := by
  have positive {α : Type} {l : List α} (inhabited : l ≠ []) : 0 < l.length :=
    List.length_pos_of_ne_nil inhabited
  refine ⟨fun place min max t ordered => ⟨?_, ?_⟩, fun place options inhabited => ⟨?_, ?_⟩,
    fun args a accepted ordered => ?_,
    fun args a values accepted given inhabited => ⟨?_, ?_⟩, ?_⟩
  · exact support_between64 (UInt64.le_iff_toNat_le.mp ordered) max.toNat_lt
  · exact Template.run_range registry context ordered place t
  · exact support_index (positive inhabited)
  · exact Template.run_oneOf registry context inhabited place
  · exact Numbers.support_int context accepted ordered
  · exact support_index (positive inhabited)
  · exact Builtin.arrayElement_eq inhabited context accepted given
  · simp only [List.forall_mem_cons]
    refine ⟨fun args a => ?_, fun args a => ?_, fun args a => ?_, List.forall_mem_nil _⟩
    · exact Strings.support_fromAlphabet _ (by decide) (by decide) context
    · exact Strings.support_fromAlphabet _ (by decide) (by decide) context
    · exact Strings.support_fromAlphabet _ (by decide) (by decide) context

theorem bounded_choices_widest :
    let context : RecordContext := ⟨0, .enUS, .midnight 0⟩
    let registry : Registry (Provider Script) := .empty
    let place := Location.atRoot "/template"
    let options : List Template := [.literal (.bool false), .literal .null]
    let least := Int64.minValue
    let most := Int64.maxValue
    let integer := some (Json.object [("min", .ofInt64 least), ("max", .ofInt64 most)])
    let element := some (Json.object [("values", .array [.null, .bool true])])
    let text := some (Json.object [("length", .ofUInt64 3)])
    support (between64 2 5) = {n | 2 ≤ n ∧ n ≤ 5} ∧
      (∃ s : Script, ((Template.resolve registry context (.oneOf place options)).run ⟨s, []⟩).1 =
        .ok .null) ∧
      .ok (.ofInt64 least) ∈ support (Numbers.int context integer) ∧
      .ok (.ofInt64 most) ∈ support (Numbers.int context integer) ∧
      (∃ s : Script, (Builtin.arrayElement context element s).1 = .ok (.bool true)) ∧
      .ok (.string "007") ∈ support (Strings.numeric context text) ∧
      .ok (.string "7") ∉ support (Strings.numeric context text) := by
  intro context registry place options least most integer element text
  obtain ⟨ranges, choices, integers, elements, strings⟩ := bounded_choices registry context
  have length := (ranges place 2 5 (.literal .null) (by decide)).1
  have second {n : Nat} (all : support (index n) = {i | i < n}) (two : 1 < n) :
      ∃ s : Script, (index n s).1 = 1 := by
    have member : 1 ∈ support (index n) := by
      rw [all]
      exact two
    exact member
  have everything : support (Numbers.int context integer) =
      (fun k => Except.ok (Json.ofInt64 k)) '' {k | least ≤ k ∧ k ≤ most} := by
    obtain ⟨accepted, min, max⟩ :=
      Arguments.read_integers (show "min" ≠ "max" by decide) least most
    have all := integers integer _ accepted
    simp only [min, max, Option.getD_some] at all
    exact all (by decide)
  have digits : support (Strings.numeric context text) =
      (fun cs => Except.ok (Json.string (String.ofList cs))) ''
        {cs | cs.length = 3 ∧ ∀ c ∈ cs, c ∈ Strings.digits} :=
    strings (Strings.numeric, Strings.digits) (by simp) text ⟨[("length", .ofUInt64 3)]⟩ rfl
  refine ⟨length, ?_, ?_, ?_, ?_, ?_, ?_⟩
  · obtain ⟨all, taken⟩ := choices place options (by simp [options])
    obtain ⟨s, drawn⟩ := second (all (by decide)) (by decide)
    obtain ⟨inside, result⟩ := taken s []
    refine ⟨s, ?_⟩
    rw [result]
    simp only [drawn]
    rfl
  · rw [everything]
    exact ⟨least, by decide, rfl⟩
  · rw [everything]
    exact ⟨most, by decide, rfl⟩
  · obtain ⟨all, taken⟩ := elements element ⟨[("values", .array [.null, .bool true])]⟩
      [.null, .bool true] rfl rfl (by simp)
    obtain ⟨s, drawn⟩ := second (all (by decide)) (by decide)
    obtain ⟨inside, result⟩ := taken s
    refine ⟨s, ?_⟩
    rw [result]
    simp only [drawn]
    rfl
  · rw [digits]
    have zero : '0' ∈ Strings.digits := by decide
    have seven : '7' ∈ Strings.digits := by decide
    refine ⟨['0', '0', '7'], ⟨rfl, ?_⟩, rfl⟩
    simp only [List.forall_mem_cons]
    exact ⟨zero, zero, seven, List.forall_mem_nil _⟩
  · rw [digits]
    rintro ⟨cs, ⟨length, _⟩, same⟩
    have single : String.ofList cs = "7" := by simpa using same
    rw [← String.toList_inj, String.toList_ofList] at single
    rw [single] at length
    exact absurd length (by decide)

end MockData
