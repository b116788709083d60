import MockData.Pattern.CharSet

/-!
# Simplified patterns

An expression is a pattern in a simple form. The functions that build expressions keep it simple: a
set of one character is a literal, adjacent literals are one, sequences and choices are not nested
directly, a choice between single characters or between sets is a set, and parts that all branches
of a choice start with stand in front of it.
-/

namespace MockData

namespace Pattern

/-- A set is marked if it was meant as a set of bytes. -/
inductive Expr where
  | empty
  | literal (text : List Char)
  | set (set : CharSet) (bytes : Bool)
  | assertion
  | repetition (min : Nat) (max : Option Nat) (greedy : Bool) (body : Expr)
  | capture (number : Nat) (name : Option String) (body : Expr)
  | sequence (parts : List Expr)
  | choice (branches : List Expr)

namespace Expr

mutual
def same : Expr → Expr → Bool
  | .empty, .empty => true
  | .literal s, .literal t => s == t
  | .set s b, .set t c => s == t && b == c
  | .assertion, .assertion => true
  | .repetition min max greedy body, .repetition min' max' greedy' body' =>
    min == min' && max == max' && greedy == greedy' && same body body'
  | .capture number name body, .capture number' name' body' =>
    number == number' && name == name' && same body body'
  | .sequence parts, .sequence parts' => sameAll parts parts'
  | .choice branches, .choice branches' => sameAll branches branches'
  | _, _ => false
def sameAll : List Expr → List Expr → Bool
  | [], [] => true
  | e :: rest, e' :: rest' => same e e' && sameAll rest rest'
  | _, _ => false
end

mutual
def matchesOnlyEmpty : Expr → Bool
  | .empty => true
  | .literal text => text.isEmpty
  | .set _ _ => false
  | .assertion => true
  | .repetition _ max _ body => max.isSome && matchesOnlyEmpty body
  | .capture _ _ body => matchesOnlyEmpty body
  | .sequence parts => allMatchOnlyEmpty parts
  | .choice branches => allMatchOnlyEmpty branches
def allMatchOnlyEmpty : List Expr → Bool
  | [] => true
  | e :: rest => matchesOnlyEmpty e && allMatchOnlyEmpty rest
end

mutual
def size : Expr → Nat
  | .repetition _ _ _ body => size body + 1
  | .capture _ _ body => size body + 1
  | .sequence parts => sizeAll parts + 1
  | .choice branches => sizeAll branches + 1
  | _ => 1
def sizeAll : List Expr → Nat
  | [] => 0
  | e :: rest => size e + sizeAll rest
end

def fail : Expr := .set .empty true

def ofSet (s : CharSet) (bytes : Bool) : Expr :=
  if s.ranges.isEmpty then fail
  else
    match s.only? with
    | some c => .literal [c]
    | none => .set s bytes

/-- A repetition of what is always empty happens at most once. -/
def ofRepetition (min : Nat) (max : Option Nat) (greedy : Bool) (body : Expr) : Expr :=
  let (min, max) :=
    if body.matchesOnlyEmpty then (Nat.min min 1, some (Nat.min (max.getD 1) 1)) else (min, max)
  if min = 0 ∧ max = some 0 then .empty
  else if min = 1 ∧ max = some 1 then body
  else .repetition min max greedy body

def joinLiterals : List Expr → List Expr
  | [] => []
  | .literal s :: rest =>
    match joinLiterals rest with
    | .literal t :: more => .literal (s ++ t) :: more
    | more => .literal s :: more
  | e :: rest => e :: joinLiterals rest

def partsOf : Expr → List Expr
  | .sequence parts => parts
  | .empty => []
  | e => [e]

def ofParts (parts : List Expr) : Expr :=
  match joinLiterals (parts.flatMap partsOf) with
  | [] => .empty
  | [e] => e
  | parts => .sequence parts

def branchesOf : Expr → List Expr
  | .choice branches => branches
  | e => [e]

def singleChar? : Expr → Option CharSet
  | .literal [c] => some (.single c)
  | _ => none

def set? : Expr → Option CharSet
  | .set s _ => some s
  | _ => none

def unionAll (sets : List CharSet) : CharSet := sets.foldl CharSet.union .empty

def sequence? : Expr → Option (List Expr)
  | .sequence parts => some parts
  | _ => none

def commonLength : List Expr → List Expr → Nat
  | e :: rest, e' :: rest' => if same e e' then commonLength rest rest' + 1 else 0
  | _, _ => 0

/-- How many parts all lists have in common with the first one at their start. -/
def commonPrefix (first : List Expr) (others : List (List Expr)) : Nat :=
  others.foldl (fun n other => commonLength (first.take n) other) first.length

/-- A choice. `fuel` is at least the size of the branches. -/
def ofBranchesWith : (fuel : Nat) → List Expr → Expr
  | 0, branches => .choice branches
  | fuel + 1, branches =>
    match branches.flatMap branchesOf with
    | [] => fail
    | [e] => e
    | flat =>
      match flat.mapM singleChar?, flat.mapM set?, flat.mapM sequence? with
      | some chars, _, _ => ofSet (unionAll chars) false
      | none, some sets, _ => ofSet (unionAll sets) false
      | none, none, some (first :: others) =>
        match commonPrefix first others with
        | 0 => .choice flat
        | n =>
          let rests := (first :: others).map fun parts => ofParts (parts.drop n)
          ofParts (first.take n ++ [ofBranchesWith fuel rests])
      | none, none, _ => .choice flat

def ofBranches (branches : List Expr) : Expr := ofBranchesWith (sizeAll branches + 1) branches

end Expr

end Pattern

end MockData
