/-!
# Values in a settings file

A value is an integer, a switch, a text, a list or a table of values with names. Since no setting
takes a list with items, only the empty list is a value. A table grows while a file is read, and how
it has come about decides what may still be added to it.
-/

namespace MockData

/-- How a table has come about: by a line with its name, on the way to a table with such a line, by
a name with points, or between braces. -/
inductive TableOrigin where
  | line
  | way
  | points
  | braces
  deriving DecidableEq

inductive SettingValue where
  | integer (n : Int)
  | switch (on : Bool)
  | string (s : String)
  | list
  | table (origin : TableOrigin) (entries : List (String × SettingValue))

/-- Values with names, each name once. -/
abbrev SettingEntries := List (String × SettingValue)

namespace SettingEntries

/-- Changes the value of a name, or adds one. -/
def change? (name : String) (change : Option SettingValue → Option SettingValue) :
    SettingEntries → Option SettingEntries
  | [] => (change none).map fun value => [(name, value)]
  | (other, value) :: rest =>
    if other = name then (change (some value)).map fun value => (other, value) :: rest
    else (change? name change rest).map fun rest => (other, value) :: rest

/-- Adds a value under a name with points. The tables on the way have come about by such names. -/
def add? (value : SettingValue) : List String → SettingEntries → Option SettingEntries
  | [], _ => none
  | [name], entries =>
    change? name (fun before => if before.isSome then none else some value) entries
  | name :: path, entries =>
    change? name (fun
      | none => (add? value path []).map (.table .points)
      | some (.table .points inner) => (add? value path inner).map (.table .points)
      | some _ => none) entries

/-- Adds the table of a line with its name. There is one line for a table at most. -/
def addTable? : List String → SettingEntries → Option SettingEntries
  | [], _ => none
  | [name], entries =>
    change? name (fun
      | none => some (.table .line [])
      | some (.table .way inner) => some (.table .line inner)
      | some _ => none) entries
  | name :: path, entries =>
    change? name (fun
      | none => (addTable? path []).map (.table .way)
      | some (.table .braces _) => none
      | some (.table origin inner) => (addTable? path inner).map (.table origin)
      | some _ => none) entries

def within? (change : SettingEntries → Option SettingEntries) :
    List String → SettingEntries → Option SettingEntries
  | [], entries => change entries
  | name :: path, entries =>
    change? name (fun
      | some (.table origin inner) => (within? change path inner).map (.table origin)
      | _ => none) entries

end SettingEntries

end MockData
