import MockData.Pattern.Expr
import MockData.Pattern.Fold
import MockData.Pattern.Syntax

/-!
# The meaning of patterns

`Syntax.meaning?` applies the flags of a pattern and simplifies it. A change of flags holds up to
the end of its group, also in later branches. Without the Unicode flag sets are sets of bytes; since
text must stay valid, they must not leave ASCII, and so they cannot be negated.
-/

namespace MockData

namespace Pattern

/-- The flags that matter for the meaning of a pattern. -/
structure Flags where
  ignoreCase : Bool
  dotAll : Bool
  lazy : Bool
  unicode : Bool
  anyLineEnd : Bool

namespace Flags

def start : Flags := ⟨false, false, false, true, false⟩

def change (flags : Flags) (change : FlagChange) : Flags where
  ignoreCase := (change.get? .ignoreCase).getD flags.ignoreCase
  dotAll := (change.get? .dotAll).getD flags.dotAll
  lazy := (change.get? .lazy).getD flags.lazy
  unicode := (change.get? .unicode).getD flags.unicode
  anyLineEnd := (change.get? .anyLineEnd).getD flags.anyLineEnd

end Flags

namespace ClassSyntax

/-- Adds other cases and takes the complement, as flags and negation say. -/
def finish? (flags : Flags) (negated : Bool) (s : CharSet) : Option CharSet :=
  let folded :=
    if !flags.ignoreCase then s else if flags.unicode then s.fold else s.foldAscii
  if !negated then some folded
  else if flags.unicode then some folded.complement
  else none

/-- A character between brackets; a byte must be ASCII. -/
def char? (flags : Flags) (c : Char) : Option Char :=
  if flags.unicode || c.toNat < 128 then some c else none

def named (flags : Flags) : ShortClass → CharSet
  | .digit => if flags.unicode then CharSet.digits else CharSet.asciiDigits
  | .blank => if flags.unicode then CharSet.blanks else CharSet.asciiBlanks
  | .word => if flags.unicode then CharSet.word else CharSet.asciiWord

/-- The set of a short name or, if it may leave ASCII, of all other characters. -/
def short? (flags : Flags) (kind : ShortClass) (negated : Bool) : Option CharSet :=
  if !negated then some (named flags kind)
  else if flags.unicode then some (named flags kind).complement
  else none

def combine (flags : Flags) (operation : ClassOperation) (left right : CharSet) : CharSet :=
  let fold (s : CharSet) : CharSet :=
    if !flags.ignoreCase then s else if flags.unicode then s.fold else s.foldAscii
  match operation with
  | .intersection => (fold left).inter (fold right)
  | .difference => (fold left).diff (fold right)
  | .symmetricDifference => (fold left).symmDiff (fold right)

mutual
def set? (flags : Flags) : ClassSyntax → Option CharSet
  | .char c _ => (char? flags c).map CharSet.single
  | .range first last _ _ => do
    let first ← char? flags first
    let last ← char? flags last
    return .between first last
  | .posix set negated => finish? flags negated set
  | .short kind negated => short? flags kind negated
  | .bracketed negated body =>
    ((set? flags body).bind (finish? flags negated)).map CharSet.empty.union
  | .union items => setItems? flags items
  | .combined operation left right => do
    let left ← set? flags left
    let right ← set? flags right
    return combine flags operation left right
def setItems? (flags : Flags) : List ClassSyntax → Option CharSet
  | [] => some .empty
  | item :: rest => do
    let s ← set? flags item
    let others ← setItems? flags rest
    return s.union others
end

end ClassSyntax

namespace Syntax

/-- A character with its other cases, if case is ignored and there are any. -/
def charMeaning (flags : Flags) (c : Char) : Expr :=
  if !flags.ignoreCase then .literal [c]
  else
    let single := CharSet.single c
    let folded := if flags.unicode then single.fold else single.foldAscii
    .ofSet folded (!flags.unicode)

def dotMeaning (flags : Flags) : Expr :=
  let excluded : List Char :=
    if flags.dotAll then [] else if flags.anyLineEnd then ['\n', '\r'] else ['\n']
  .ofSet (CharSet.complement (excluded.foldl (fun s c => s.union (.single c)) .empty)) false

mutual
/-- The expression of a pattern and the flags that hold after it. -/
def elaborate? (flags : Flags) : Syntax → Option (Expr × Flags)
  | .empty => some (.empty, flags)
  | .flags change => some (.empty, flags.change change)
  | .char c byte =>
    if byte && !flags.unicode && 128 ≤ c.toNat then none else some (charMeaning flags c, flags)
  | .dot => if flags.unicode then some (dotMeaning flags, flags) else none
  | .assertion => some (.assertion, flags)
  | .short kind negated =>
    (ClassSyntax.short? flags kind negated).map fun s => (.ofSet s (!flags.unicode), flags)
  | .bracketed negated body =>
    ((ClassSyntax.set? flags body).bind (ClassSyntax.finish? flags negated)).map fun s =>
      (.ofSet s (!flags.unicode), flags)
  | .repetition min max greedy body => do
    let (body, flags) ← elaborate? flags body
    return (.ofRepetition min max (greedy != flags.lazy) body, flags)
  | .group (.capture number name) body => do
    let (body, _) ← elaborate? flags body
    return (.capture number name body, flags)
  | .group (.plain change) body => do
    let (body, _) ← elaborate? (flags.change change) body
    return (body, flags)
  | .alternatives branches => do
    let (branches, flags) ← elaborateAll? flags branches
    return (.ofBranches branches, flags)
  | .sequence parts => do
    let (parts, flags) ← elaborateAll? flags parts
    return (.ofParts parts, flags)
def elaborateAll? (flags : Flags) : List Syntax → Option (List Expr × Flags)
  | [] => some ([], flags)
  | tree :: rest => do
    let (e, flags) ← elaborate? flags tree
    let (es, flags) ← elaborateAll? flags rest
    return (e :: es, flags)
end

def meaning? (tree : Syntax) : Option Expr := (elaborate? .start tree).map Prod.fst

end Syntax

end Pattern

end MockData
