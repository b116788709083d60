import MockData.Provider.Basic
import MockData.Text.Basic
import MockData.Vocabulary.Basic

/-!
# Filler text

Words, sentences and paragraphs of Latin filler text, all from one list of words. A sentence is a
run of words with a capital in front and a period behind.
-/

namespace MockData

namespace Lorem

variable {σ : Type} [RandomSource σ]

def words : WordTable :=
  ⟨"lorem", #["ipsum", "dolor", "sit", "amet", "consectetur", "adipiscing", "elit", "sed", "do",
    "eiusmod", "tempor", "incididunt", "ut", "labore", "et", "dolore", "magna", "aliqua", "enim",
    "minim", "veniam", "quis", "nostrud", "exercitation", "ullamco", "laboris", "nisi", "aliquip",
    "commodo", "consequat", "duis", "aute", "irure", "voluptate", "velit", "esse", "cillum",
    "fugiat", "nulla", "pariatur"]⟩

def pickWord : Draw σ String := words.pick

def run (count : Nat) : Draw σ String := do
  return " ".intercalate (← Draw.replicate count pickWord)

/-- A sentence of `minWords` to `maxWords` words, for `minWords ≤ maxWords`. -/
def sentenceBetween (minWords maxWords : Nat) : Draw σ String := do
  let count ← Draw.between64 minWords maxWords
  return Text.capitalize (← run count) ++ "."

def word : Provider σ := .planned "lorem.word" [] fun _ _ =>
  .ok fun _ => .string <$> pickWord

def wordsParameters : List Parameter := [⟨"count", .count, false⟩]

def wordRun : Provider σ := .planned "lorem.words" wordsParameters fun _ a =>
  .ok fun _ => .string <$> run ((a.count? "count").getD 3).toNat

def sentenceParameters : List Parameter :=
  [⟨"minWords", .count, false⟩, ⟨"maxWords", .count, false⟩]

/-- Without an upper bound a sentence may always have ten words. -/
def sentence : Provider σ := .planned "lorem.sentence" sentenceParameters fun _ a =>
  let minWords := ((a.count? "minWords").getD 3).toNat
  let maxWords := ((a.count? "maxWords").map UInt64.toNat).getD (max 10 minWords)
  if minWords = 0 then .error (.because "minWords must be > 0")
  else if maxWords < minWords then .error (.because "minWords must be <= maxWords")
  else .drawing (minWords ≤ maxWords) fun _ => .string <$> sentenceBetween minWords maxWords

def paragraphParameters : List Parameter := [⟨"sentences", .count, false⟩]

/-- How many sentences a list has room for: each takes 24 bytes of it, and a list is less than
`2 ^ 63` bytes long. -/
def mostSentences : Nat := 0x7fffffffffffffff / 24

/-- The list for the sentences is made before the first one. -/
def paragraph : Provider σ := .planned "lorem.paragraph" paragraphParameters fun _ a =>
  let count := ((a.count? "sentences").getD 3).toNat
  if mostSentences < count then .error .emptyRange
  else .ok fun _ => do
    return .string (" ".intercalate (← Draw.replicate count (sentenceBetween 3 10)))

end Lorem

end MockData
