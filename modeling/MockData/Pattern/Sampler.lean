import MockData.Pattern.Meaning
import MockData.Pattern.Parser
import MockData.Random.Draw

/-!
# Drawing texts that match a pattern

A sampler draws a text that matches a pattern: an element of every set, a branch of every choice and
a count for every repetition, each of them equally likely. A repetition of a repetition draws both
counts at once, the inner one first. A repetition without an upper bound may exceed its lower bound
by a given number.
-/

namespace MockData

namespace Pattern

/-- Why no text can be drawn for a pattern. -/
inductive Fault where
  | unreadable
  | assertion
  | unsatisfiable
  deriving DecidableEq

namespace Fault

def text : Fault → String
  | .unreadable => "regex parse error:"
  | .assertion => "anchor is not supported"
  | .unsatisfiable => "regex is unsatisfiable"

end Fault

/-- A repetition has the bounds of all its counts, the innermost first. -/
inductive Sampler where
  | fixed (chars : List Char)
  | element (set : CharSet)
  | sequence (parts : List Sampler)
  | choice (branches : List Sampler)
  | repeated (counts : List (Nat × Nat)) (body : Sampler)

namespace Sampler

def ofRepetition (bounds : Nat × Nat) : Sampler → Sampler
  | .repeated counts body => .repeated (counts ++ [bounds]) body
  | body => .repeated [bounds] body

def partsOf : Sampler → List Sampler
  | .sequence parts => parts
  | s => [s]

/-- A sequence; one part stands for itself. -/
def ofParts (parts : List Sampler) : Sampler :=
  match parts.flatMap partsOf with
  | [s] => s
  | parts => .sequence parts

def branchesOf : Sampler → List Sampler
  | .choice branches => branches
  | s => [s]

mutual
def ofExpr (maxRepeat : Nat) : Expr → Except Fault Sampler
  | .empty => .ok (.sequence [])
  | .literal chars => .ok (.fixed chars)
  | .set set _ => if set.ranges.isEmpty then .error .unsatisfiable else .ok (.element set)
  | .assertion => .error .assertion
  | .repetition min max _ body => do
    let body ← ofExpr maxRepeat body
    return ofRepetition (min, max.getD (min + maxRepeat)) body
  | .capture _ _ body => ofExpr maxRepeat body
  | .sequence parts => do return ofParts (← ofExprs maxRepeat parts)
  | .choice branches => do
    let branches ← ofExprs maxRepeat branches
    return .choice (branches.flatMap branchesOf)
def ofExprs (maxRepeat : Nat) : List Expr → Except Fault (List Sampler)
  | [] => .ok []
  | e :: rest => do
    let s ← ofExpr maxRepeat e
    let others ← ofExprs maxRepeat rest
    return s :: others
end

def ofPattern (pattern : String) (maxRepeat : Nat) : Except Fault Sampler :=
  match (Syntax.read? pattern).bind Syntax.meaning? with
  | none => .error .unreadable
  | some e => ofExpr maxRepeat e

variable {σ : Type} [RandomSource σ]

/-- A count between two bounds; equal bounds need no draw. -/
def drawCount (bounds : Nat × Nat) : Draw σ Nat := do
  if bounds.2 ≤ bounds.1 then return bounds.1
  else return bounds.1 + (← Draw.belowExact (bounds.2 - bounds.1 + 1))

/-- The product of all counts, drawn in order. It is a word of 32 bits. -/
def drawProduct : List (Nat × Nat) → Draw σ Nat
  | [] => return 1
  | bounds :: rest => do
    let n ← drawCount bounds
    return n * (← drawProduct rest) % 0x100000000

mutual
def draw : Sampler → Draw σ (List Char)
  | .fixed chars => return chars
  | .element set => do return [set.element (← Draw.belowExact set.size)]
  | .sequence parts => drawAll parts
  | .choice branches => do drawNth branches (← Draw.belowExact branches.length)
  | .repeated counts body => do
    let n ← drawProduct counts
    return (← Draw.replicate n (draw body)).flatten
def drawAll : List Sampler → Draw σ (List Char)
  | [] => return []
  | s :: rest => do
    let chars ← draw s
    return chars ++ (← drawAll rest)
def drawNth : List Sampler → Nat → Draw σ (List Char)
  | [], _ => return []
  | s :: _, 0 => draw s
  | _ :: rest, i + 1 => drawNth rest i
end

end Sampler

end Pattern

end MockData
