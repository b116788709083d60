import MockData.Random.Draw
import MockData.Text.Basic

/-!
# Locales and word tables

A locale selects the tables that names, addresses and the like are picked from. A word table is a
list of words with at least one entry. `WordTable.ofLines` reads one from lines with a bar between
two entries, and `WordTable.pick` draws an entry; each place in the table is as likely as any other.
-/

namespace MockData

inductive Locale where
  | enUS
  | ptBR
  deriving DecidableEq

namespace Locale

def all : List Locale := [.enUS, .ptBR]

def text : Locale → String
  | .enUS => "en_US"
  | .ptBR => "pt_BR"

def parse? (text : String) : Option Locale := all.find? fun locale => locale.text = text

/-- The wording for a text that names no locale. -/
def unsupported (text : String) : String :=
  "unsupported locale '" ++ text ++ "' (expected one of: " ++
    ", ".intercalate (all.map Locale.text) ++ ")"

end Locale

structure WordTable where
  first : String
  rest : Array String

namespace WordTable

def size (t : WordTable) : Nat := t.rest.size + 1

/-- The entry at an index; an index that is too large gives the first one. -/
def entry (t : WordTable) (i : Nat) : String :=
  if i = 0 then t.first else t.rest.getD (i - 1) t.first

def ofLines (lines : List String) : WordTable :=
  match lines.flatMap (Text.splitString '|') with
  | [] => ⟨"", #[]⟩
  | first :: rest => ⟨first, rest.toArray⟩

def pick {σ : Type} [RandomSource σ] (t : WordTable) : Draw σ String := do
  return t.entry (← Draw.index t.size)

end WordTable

end MockData
