/-!
# Dictionaries

A dictionary is a list of entries in ascending order of their keys. `put` replaces the entry of a
key or adds one at its place.
-/

namespace MockData

namespace Text

/-- Texts are in the order of their code points, a text before every longer one that starts with
it. -/
def order : List Char → List Char → Ordering
  | [], [] => .eq
  | [], _ :: _ => .lt
  | _ :: _, [] => .gt
  | c :: s, d :: t =>
    if c.toNat = d.toNat then order s t
    else if c.toNat < d.toNat then .lt
    else .gt

def before (s t : String) : Bool := order s.toList t.toList == .lt

def atMost (s t : String) : Bool := !before t s

def sorted (texts : List String) : List String := texts.mergeSort atMost

end Text

abbrev Dictionary (α : Type) := List (String × α)

namespace Dictionary

variable {α : Type}

def get? (d : Dictionary α) (key : String) : Option α := d.lookup key

def put (key : String) (value : α) : Dictionary α → Dictionary α
  | [] => [(key, value)]
  | (k, v) :: rest =>
    if k = key then (key, value) :: rest
    else if Text.before key k then (key, value) :: (k, v) :: rest
    else (k, v) :: put key value rest

end Dictionary

end MockData
