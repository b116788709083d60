import MockData.Proofs.Provider.Endings
import MockData.Proofs.Random.Support
import MockData.Proofs.Text.Characters
import MockData.Proofs.Text.Split

/-!
# The shape of filler text

A row of words, a sentence and a paragraph are texts of the shape that was asked for, whatever is
drawn, and each such text may be drawn. As no word has a blank or a period in it, the words and the
sentences can be told from the text. The main result is `filler_shapes`.
-/

namespace MockData

namespace WordTable

def entries (t : WordTable) : List String := t.first :: t.rest.toList

theorem entry_mem (t : WordTable) (i : Nat) : t.entry i ∈ t.entries := by
  unfold entry entries
  split
  · exact List.mem_cons_self
  · rw [Array.getD]
    split
    · exact List.mem_cons_of_mem _ (by simp)
    · exact List.mem_cons_self

theorem exists_entry {t : WordTable} {w : String} (member : w ∈ t.entries) :
    ∃ i, i < t.size ∧ t.entry i = w := by
  rcases List.mem_cons.mp member with rfl | later
  · exact ⟨0, Nat.succ_pos _, rfl⟩
  · obtain ⟨i, inside, rfl⟩ := List.mem_iff_getElem.mp later
    rw [Array.length_toList] at inside
    refine ⟨i + 1, Nat.succ_lt_succ inside, ?_⟩
    simp [entry, inside]

theorem yields_pick {t : WordTable} (within : t.size ≤ 0x10000000000000000) :
    Draw.Yields t.pick fun w => w ∈ t.entries := by
  refine ((Draw.yields_index (Nat.succ_pos _) within).map t.entry).of_iff fun w => ⟨?_, ?_⟩
  · rintro ⟨i, _, rfl⟩
    exact entry_mem t i
  · exact exists_entry

end WordTable

namespace Lorem

def Listed (ws : List String) : Prop := ∀ w ∈ ws, w ∈ words.entries

theorem lower_of_listed :
    ∀ w ∈ words.entries, w.toList ≠ [] ∧ ∀ c ∈ w.toList, c.isLower = true := by
  have small : words.entries.all fun w => !w.toList.isEmpty && w.toList.all Char.isLower := by
    decide +kernel
  intro w listed
  have word := List.all_eq_true.mp small w listed
  simpa using word

/-- The text is `n` words of the list with a blank between two; it tells which words. -/
def IsRun (n : Nat) (text : String) : Prop :=
  ∃! ws : List String, ws.length = n ∧ Listed ws ∧ " ".intercalate ws = text

/-- The words with a blank between two, the first letter as a capital, and a period behind. -/
def Spells (ws : List String) (text : String) : Prop :=
  ∃ c rest, (" ".intercalate ws).toList = c :: rest ∧ c.isLower ∧
    (∀ d ∈ rest, d.isLower ∨ d = ' ') ∧ text.toList = c.toUpper :: (rest ++ ['.'])

def IsSentence (n : Nat) (text : String) : Prop :=
  ∃! ws : List String, ws.length = n ∧ Listed ws ∧ Spells ws text

def IsSentenceBetween (min max : Nat) (text : String) : Prop :=
  ∃ n, min ≤ n ∧ n ≤ max ∧ IsSentence n text

def IsParagraph (m : Nat) (text : String) : Prop :=
  ∃! ss : List String, ss.length = m ∧ (∀ s ∈ ss, IsSentenceBetween 3 10 s) ∧
    " ".intercalate ss = text

theorem toList_joined (ws : List String) :
    (" ".intercalate ws).toList = [' '].intercalate (ws.map String.toList) :=
  String.toList_intercalate

theorem map_toList_inj {ws vs : List String} (same : ws.map String.toList = vs.map String.toList) :
    ws = vs := List.map_injective_iff.mpr (fun _ _ => String.toList_injective) same

theorem split_joined {ws : List String} (listed : Listed ws) (some : ws ≠ []) :
    Text.split ' ' (" ".intercalate ws).toList = ws.map String.toList := by
  rw [toList_joined]
  apply Text.split_intercalate
  · simpa using some
  · intro part member blank
    obtain ⟨w, here, rfl⟩ := List.mem_map.mp member
    exact absurd ((lower_of_listed w (listed w here)).2 ' ' blank) (by decide)

theorem joined_eq_nil {ws : List String} (listed : Listed ws) :
    (" ".intercalate ws).toList = [] ↔ ws = [] := by
  constructor
  · intro empty
    by_contra some
    have parts := split_joined listed some
    rw [empty] at parts
    obtain ⟨w, rest, rfl⟩ := List.exists_cons_of_ne_nil some
    obtain ⟨blank, _⟩ := List.cons.inj parts
    exact (lower_of_listed w (listed w List.mem_cons_self)).1 blank.symm
  · rintro rfl
    rfl

theorem joined_inj {ws vs : List String} (listed : Listed ws) (others : Listed vs)
    (same : " ".intercalate ws = " ".intercalate vs) : ws = vs := by
  -- The texts of no words and of one empty word would be the same; no word of the list is empty.
  have empty : ws = [] ↔ vs = [] := by
    rw [← joined_eq_nil listed, same, joined_eq_nil others]
  by_cases none : ws = []
  · rw [none, empty.mp none]
  · have parts := split_joined listed none
    rw [same, split_joined others (mt empty.mpr none)] at parts
    exact (map_toList_inj parts).symm

theorem isRun_of {ws : List String} (listed : Listed ws) : IsRun ws.length (" ".intercalate ws) :=
  ⟨ws, ⟨rfl, listed, rfl⟩, fun _ other => joined_inj other.2.1 listed other.2.2⟩

theorem lower_of_joined {ws : List String} (listed : Listed ws) :
    ∀ d ∈ (" ".intercalate ws).toList, d.isLower ∨ d = ' ' := by
  intro d member
  rw [toList_joined] at member
  rcases Text.mem_intercalate member with rfl | ⟨part, here, inside⟩
  · exact .inr rfl
  · obtain ⟨w, of, rfl⟩ := List.mem_map.mp here
    exact .inl ((lower_of_listed w (listed w of)).2 d inside)

theorem spells_capitalize {ws : List String} (listed : Listed ws) (some : ws ≠ []) :
    Spells ws (Text.capitalize (" ".intercalate ws) ++ ".") := by
  obtain ⟨w, words, rfl⟩ := List.exists_cons_of_ne_nil some
  obtain ⟨letters, lower⟩ := lower_of_listed w (listed w List.mem_cons_self)
  obtain ⟨c, others, first⟩ := List.exists_cons_of_ne_nil letters
  have whole := toList_joined (w :: words)
  rw [List.map_cons, Text.intercalate_cons, first, List.cons_append] at whole
  have rest := lower_of_joined listed
  rw [whole] at rest
  refine ⟨c, _, whole, ?_, fun d member => rest d (List.mem_cons_of_mem _ member), ?_⟩
  · exact lower c (first ▸ List.mem_cons_self)
  · simp [Text.capitalize, whole]

theorem Spells.eq {ws : List String} {text : String} (spells : Spells ws text) :
    Text.capitalize (" ".intercalate ws) ++ "." = text := by
  obtain ⟨c, rest, whole, _, _, written⟩ := spells
  apply String.toList_injective
  simp [Text.capitalize, whole, written]

theorem Spells.inj {ws vs : List String} {text : String} (spells : Spells ws text)
    (other : Spells vs text) (listed : Listed ws) (others : Listed vs) : ws = vs := by
  obtain ⟨c, rest, whole, lower, _, written⟩ := spells
  obtain ⟨d, more, joined, letter, _, same⟩ := other
  rw [written] at same
  obtain ⟨first, behind⟩ := List.cons.inj same
  apply joined_inj listed others
  apply String.toList_injective
  rw [whole, joined, Text.toUpper_inj lower letter first, List.append_cancel_right behind]

theorem isSentence_of {ws : List String} {text : String} (listed : Listed ws)
    (spells : Spells ws text) : IsSentence ws.length text :=
  ⟨ws, ⟨rfl, listed, spells⟩, fun _ other => other.2.2.inj spells other.2.1 listed⟩

theorem IsSentence.stopped {n : Nat} {text : String} (sentence : IsSentence n text) :
    Text.Stopped '.' text.toList := by
  obtain ⟨ws, ⟨_, _, c, rest, _, lower, letters, written⟩, _⟩ := sentence
  refine ⟨c.toUpper :: rest, fun period => ?_, written⟩
  rcases List.mem_cons.mp period with first | later
  · have upper := Text.isUpper_toUpper lower
    rw [← first] at upper
    exact absurd upper (by decide)
  · exact absurd (letters '.' later) (by decide)

theorem paragraph_stopped {ss : List String} (sentences : ∀ s ∈ ss, IsSentenceBetween 3 10 s) :
    ∀ part ∈ ss.map String.toList, Text.Stopped '.' part := by
  intro part member
  obtain ⟨s, here, rfl⟩ := List.mem_map.mp member
  obtain ⟨n, _, _, sentence⟩ := sentences s here
  exact sentence.stopped

theorem isParagraph_of {ss : List String} (sentences : ∀ s ∈ ss, IsSentenceBetween 3 10 s) :
    IsParagraph ss.length (" ".intercalate ss) := by
  refine ⟨ss, ⟨rfl, sentences, rfl⟩, fun others ⟨_, alike, same⟩ => ?_⟩
  -- There are blanks inside the sentences too, so the text is taken apart at the periods.
  have parts := congrArg String.toList same
  rw [toList_joined, toList_joined] at parts
  exact map_toList_inj (Text.intercalate_stopped_inj (paragraph_stopped alike)
    (paragraph_stopped sentences) parts)

theorem IsParagraph.count {m : Nat} {text : String} (paragraph : IsParagraph m text) :
    text.toList.count '.' = m := by
  obtain ⟨ss, ⟨rfl, sentences, rfl⟩, _⟩ := paragraph
  rw [toList_joined, Text.count_intercalate_stopped (by decide) (paragraph_stopped sentences),
    List.length_map]

/-! ### Draws -/

theorem yields_run (n : Nat) : Draw.Yields (run n) (IsRun n) := by
  have all := (WordTable.yields_pick (t := words) (by decide)).replicate n
  refine (all.map " ".intercalate).of_iff fun text => ⟨?_, ?_⟩
  · rintro ⟨ws, ⟨rfl, listed⟩, rfl⟩
    exact isRun_of listed
  · rintro ⟨ws, ⟨length, listed, joined⟩, _⟩
    exact ⟨ws, ⟨length, listed⟩, joined⟩

theorem yields_sentenceBetween {min max : Nat} (positive : 0 < min) (ordered : min ≤ max)
    (word : max < 0x10000000000000000) :
    Draw.Yields (sentenceBetween min max) (IsSentenceBetween min max) where
  stays s := by
    obtain ⟨least, most⟩ := Draw.between64_bounds ordered s
    obtain ⟨ws, ⟨length, listed, joined⟩, _⟩ :=
      (yields_run (Draw.between64 min max s).1).stays (Draw.between64 min max s).2
    refine ⟨_, least, most, ?_⟩
    have drawn : (sentenceBetween min max s).1 = Text.capitalize (" ".intercalate ws) ++ "." := by
      rw [joined]
      rfl
    rw [drawn, ← length]
    refine isSentence_of listed (spells_capitalize listed ?_)
    rintro rfl
    rw [← length, List.length_nil] at least
    omega
  reached text has := by
    obtain ⟨n, least, most, ws, ⟨length, listed, spells⟩, _⟩ := has
    have count := Draw.between64_reaches word least most
    have drawn := (yields_run n).reached _ (length ▸ isRun_of listed)
    have ended := drawn.map fun text => Text.capitalize text ++ "."
    rw [spells.eq] at ended
    exact count.bind ended

theorem yields_paragraph (m : Nat) :
    Draw.Yields (" ".intercalate <$> Draw.replicate m (sentenceBetween 3 10)) (IsParagraph m) := by
  have sentences := @yields_sentenceBetween 3 10 (by decide) (by decide) (by decide)
  refine ((sentences.replicate m).map " ".intercalate).of_iff fun text => ⟨?_, ?_⟩
  · rintro ⟨ss, ⟨rfl, all⟩, rfl⟩
    exact isParagraph_of all
  · rintro ⟨ss, ⟨length, all, joined⟩, _⟩
    exact ⟨ss, ⟨length, all⟩, joined⟩

/-! ### Calls -/

def asked (a : Arguments) (key : String) : Nat := ((a.count? key).getD 3).toNat

/-- Without an upper bound it is ten words, or the lower bound if that is higher. -/
def mostWords (a : Arguments) : Nat :=
  ((a.count? "maxWords").map UInt64.toNat).getD (max 10 (asked a "minWords"))

theorem mostWords_lt (a : Arguments) : mostWords a < 0x10000000000000000 := by
  have least := ((a.count? "minWords").getD 3).toNat_lt
  unfold mostWords asked
  cases a.count? "maxWords" with
  | none => exact Nat.max_lt.mpr ⟨by decide, least⟩
  | some most => exact most.toNat_lt

/-- A call of the built-in provider at the path gives texts that have the property: nothing else
from any source, and all of them from streams of words. -/
def Writes (path : String) (c : RecordContext) (args : Option Json) (Has : String → Prop) : Prop :=
  ∃ p : ∀ {σ : Type} [RandomSource σ], Provider σ,
    (∀ {σ : Type} [RandomSource σ], Builtin.registry.resolve path = .ok (p : Provider σ)) ∧
      Draw.Yields (p c args) fun result => ∃ text, Has text ∧ .ok (.string text) = result

variable {c : RecordContext} {args : Option Json} {a : Arguments}

theorem planned_text {σ : Type} [RandomSource σ] {path : String} {parameters : List Parameter}
    {plan : Timestamp → Arguments → Plan σ} (accepted : Arguments.read parameters args = .ok a)
    {text : Draw σ String} (planned : plan c.reference a = .ok fun _ => .string <$> text) :
    Provider.planned path parameters plan c args =
      (fun text => .ok (.string text)) <$> text := by
  rw [Provider.planned_accepted accepted, planned]
  rfl

theorem writes_of_call {path : String} {p : ∀ {σ : Type} [RandomSource σ], Provider σ}
    (listed : ∀ {σ : Type} [RandomSource σ], (path, (p : Provider σ)) ∈ Builtin.composed)
    {text : ∀ {σ : Type} [RandomSource σ], Draw σ String}
    (call : ∀ {σ : Type} [RandomSource σ],
      (p : Provider σ) c args = (fun text => .ok (.string text)) <$> text)
    {Has : String → Prop} (yields : Draw.Yields text Has) : Writes path c args Has := by
  refine ⟨p, Builtin.resolve_of_composed listed, ?_⟩
  have drawn := yields.map fun text => (.ok (.string text) : Except ProviderError Json)
  exact drawn.of_eq call

theorem wordRun_writes (accepted : Arguments.read wordsParameters args = .ok a) :
    Writes "lorem.words" c args (IsRun (asked a "count")) :=
  writes_of_call (p := wordRun) (by simp [Builtin.composed]) (planned_text accepted rfl)
    (yields_run _)

theorem sentence_writes (accepted : Arguments.read sentenceParameters args = .ok a)
    (positive : 1 ≤ asked a "minWords") (ordered : asked a "minWords" ≤ mostWords a) :
    Writes "lorem.sentence" c args (IsSentenceBetween (asked a "minWords") (mostWords a)) := by
  refine writes_of_call (p := sentence) (by simp [Builtin.composed]) (planned_text accepted ?_)
    (yields_sentenceBetween positive ordered (mostWords_lt a))
  have nonzero : ¬ asked a "minWords" = 0 := by omega
  have upright : ¬ mostWords a < asked a "minWords" := by omega
  change (if asked a "minWords" = 0 then _ else if mostWords a < asked a "minWords" then _ else
    Plan.drawing (asked a "minWords" ≤ mostWords a) _) = _
  rw [if_neg nonzero, if_neg upright]
  exact Plan.drawing_of (decide_eq_true ordered) _

theorem paragraph_writes (accepted : Arguments.read paragraphParameters args = .ok a)
    (few : asked a "sentences" ≤ mostSentences) :
    Writes "lorem.paragraph" c args (IsParagraph (asked a "sentences")) := by
  refine writes_of_call (p := paragraph) (by simp [Builtin.composed]) (planned_text accepted ?_)
    (yields_paragraph _)
  exact if_neg (Nat.not_lt.mpr few)

theorem read_minWords {v : Json} {n : UInt64} (count : v.toUInt64? = some n) :
    Arguments.read sentenceParameters (some (.object [("minWords", v)])) =
      .ok ⟨[("minWords", v)]⟩ := by
  have accepted : ParameterKind.count.accepts v = true := by simp [ParameterKind.accepts, count]
  have checked : Arguments.checkMembers sentenceParameters [("minWords", v)] = .ok () :=
    if_pos accepted
  change (Arguments.checkMembers sentenceParameters [("minWords", v)] >>= fun _ => _) = _
  rw [checked]
  rfl

theorem minWords_writes {v : Json} {n : UInt64} (count : v.toUInt64? = some n)
    (positive : 1 ≤ n.toNat) :
    Writes "lorem.sentence" c (some (.object [("minWords", v)]))
      (IsSentenceBetween n.toNat (max 10 n.toNat)) := by
  have least : asked ⟨[("minWords", v)]⟩ "minWords" = n.toNat := by
    simp [asked, Arguments.count?, Arguments.get?, Json.find?, count]
  have most : mostWords ⟨[("minWords", v)]⟩ = max 10 n.toNat := by
    unfold mostWords
    rw [least]
    rfl
  have written := sentence_writes (c := c) (read_minWords count) (by rw [least]; exact positive)
    (by rw [least, most]; exact Nat.le_max_right _ _)
  rwa [least, most] at written

/-- Rows of words, sentences and paragraphs have the shape that the arguments ask for, and all texts
of that shape may be given. A paragraph is too long for a list if it has more than `mostSentences`;
then the call ends the program. -/
theorem filler_shapes {c : RecordContext} {args : Option Json} :
    (∀ a, Arguments.read wordsParameters args = .ok a →
      Writes "lorem.words" c args (IsRun (asked a "count"))) ∧
    (∀ a, Arguments.read sentenceParameters args = .ok a → 1 ≤ asked a "minWords" →
      asked a "minWords" ≤ mostWords a →
      Writes "lorem.sentence" c args (IsSentenceBetween (asked a "minWords") (mostWords a))) ∧
    (∀ v n, args = some (.object [("minWords", v)]) → v.toUInt64? = some n → 1 ≤ n.toNat →
      Writes "lorem.sentence" c args (IsSentenceBetween n.toNat (max 10 n.toNat))) ∧
    (∀ a, Arguments.read paragraphParameters args = .ok a →
      (asked a "sentences" ≤ mostSentences →
        Writes "lorem.paragraph" c args (IsParagraph (asked a "sentences"))) ∧
      (mostSentences < asked a "sentences" → ∀ {σ : Type} [RandomSource σ] (s : σ),
        (paragraph c args s).1 = .error .emptyRange)) ∧
    ∀ text, (IsRun 0 text ∨ IsParagraph 0 text → text = "") ∧
      (∀ n, IsSentence n text → text.toList.count '.' = 1) ∧
      ∀ m, IsParagraph m text → text.toList.count '.' = m := by
  refine ⟨fun a => wordRun_writes, fun a => sentence_writes, ?_, fun a accepted =>
    ⟨paragraph_writes accepted, fun many σ _ s => paragraph_ends.mpr ⟨a, accepted, many⟩⟩,
    fun text => ⟨?_, fun n sentence => sentence.stopped.count, fun m => IsParagraph.count⟩⟩
  · rintro v n rfl count positive
    exact minWords_writes count positive
  · have empty {parts : List String} (none : parts.length = 0) : " ".intercalate parts = "" := by
      rw [List.eq_nil_of_length_eq_zero none]
      rfl
    rintro (⟨ws, ⟨none, _, rfl⟩, _⟩ | ⟨ss, ⟨none, _, rfl⟩, _⟩)
    · exact empty none
    · exact empty none

/-- No words, a sentence with its bounds at one number, one with a lower bound alone, and two
sentences. -/
theorem filler_shapes_small :
    let c : RecordContext := ⟨0, .enUS, .midnight 0⟩
    let given (members : List (String × UInt64)) : Option Json :=
      some (.object (members.map fun m => (m.1, .ofUInt64 m.2)))
    Writes "lorem.words" c (given [("count", 0)]) (IsRun 0) ∧
      Writes "lorem.sentence" c (given [("minWords", 4), ("maxWords", 4)])
        (IsSentenceBetween 4 4) ∧
      Writes "lorem.sentence" c (given [("minWords", 12)]) (IsSentenceBetween 12 12) ∧
      Writes "lorem.paragraph" c (given [("sentences", 2)]) (IsParagraph 2) := by
  intro c given
  refine ⟨?_, ?_, ?_, ?_⟩
  · exact (filler_shapes (c := c)).1 ⟨[("count", .ofUInt64 0)]⟩ rfl
  · exact (filler_shapes (c := c)).2.1 ⟨[("minWords", .ofUInt64 4), ("maxWords", .ofUInt64 4)]⟩ rfl
      (by decide) (by decide)
  · exact (filler_shapes (c := c)).2.2.1 (.ofUInt64 12) 12 rfl (by decide) (by decide)
  · exact ((filler_shapes (c := c)).2.2.2.1 ⟨[("sentences", .ofUInt64 2)]⟩ rfl).1 (by decide)

/-- Sentences that no list has room for. -/
theorem paragraph_too_long :
    let c : RecordContext := ⟨0, .enUS, .midnight 0⟩
    let args : Option Json := some (.object [("sentences", .ofUInt64 0xffffffffffffffff)])
    ((paragraph : Provider Script) c args (Script.cycle 0 #[])).1 = .error .emptyRange ∧
      ¬ Writes "lorem.paragraph" c args (IsParagraph 0xffffffffffffffff) := by
  intro c args
  have ends : ((paragraph : Provider Script) c args (Script.cycle 0 #[])).1 =
      .error .emptyRange := by
    decide +kernel
  refine ⟨ends, ?_⟩
  rintro ⟨p, found, yields⟩
  have own : (p : Provider Script) = paragraph :=
    Builtin.eq_of_composed (by simp [Builtin.composed]) found
  obtain ⟨text, _, given⟩ := yields.stays (Script.cycle 0 #[])
  rw [own, ends] at given
  cases given

end Lorem

end MockData
