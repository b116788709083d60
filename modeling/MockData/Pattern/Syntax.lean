import MockData.Pattern.Named

/-!
# Syntax of patterns

A pattern as it is written: characters, classes in brackets, groups with their flags, repetitions
and alternatives. Nothing is simplified and no flag has been applied yet.
-/

namespace MockData

namespace Pattern

inductive Flag where
  | ignoreCase
  | multiLine
  | dotAll
  | lazy
  | unicode
  | anyLineEnd
  | extended
  deriving DecidableEq

/-- Flags that are switched on or off, in the order in which they are written. -/
abbrev FlagChange := List (Flag × Bool)

def FlagChange.get? (change : FlagChange) (flag : Flag) : Option Bool := change.lookup flag

/-- A set that has a short name; its members depend on whether all scripts are meant. -/
inductive ShortClass where
  | digit
  | blank
  | word
  deriving DecidableEq

inductive ClassOperation where
  | intersection
  | difference
  | symmetricDifference
  deriving DecidableEq

/-- What stands between brackets. A character may be given as a byte, by two hexadecimal digits. -/
inductive ClassSyntax where
  | char (c : Char) (byte : Bool)
  | range (first last : Char) (firstByte lastByte : Bool)
  | posix (set : CharSet) (negated : Bool)
  | short (kind : ShortClass) (negated : Bool)
  | bracketed (negated : Bool) (body : ClassSyntax)
  | union (items : List ClassSyntax)
  | combined (operation : ClassOperation) (left right : ClassSyntax)

/-- A group captures, with its number, or changes flags inside. -/
inductive GroupKind where
  | capture (number : Nat) (name : Option String)
  | plain (change : FlagChange)
  deriving DecidableEq

inductive Syntax where
  | empty
  | flags (change : FlagChange)
  | char (c : Char) (byte : Bool)
  | dot
  | assertion
  | short (kind : ShortClass) (negated : Bool)
  | bracketed (negated : Bool) (body : ClassSyntax)
  | repetition (min : Nat) (max : Option Nat) (greedy : Bool) (body : Syntax)
  | group (kind : GroupKind) (body : Syntax)
  | alternatives (branches : List Syntax)
  | sequence (parts : List Syntax)

namespace ClassSyntax

/-- Items side by side; one item stands for itself. -/
def ofItems : List ClassSyntax → ClassSyntax
  | [item] => item
  | items => .union items

mutual
/-- How deeply classes nest. -/
def depth : ClassSyntax → Nat
  | .bracketed _ body => body.depth + 1
  | .union items => if items.isEmpty then 0 else depthItems items + 1
  | .combined _ left right => max left.depth right.depth + 1
  | _ => 0
def depthItems : List ClassSyntax → Nat
  | [] => 0
  | item :: rest => max item.depth (depthItems rest)
end

end ClassSyntax

namespace Syntax

def ofParts : List Syntax → Syntax
  | [] => .empty
  | [part] => part
  | parts => .sequence parts

def ofBranches : List Syntax → Syntax
  | [] => .empty
  | [branch] => branch
  | branches => .alternatives branches

mutual
/-- How deeply groups, repetitions, alternatives and classes nest. -/
def depth : Syntax → Nat
  | .bracketed _ body => body.depth + 1
  | .repetition _ _ _ body => body.depth + 1
  | .group _ body => body.depth + 1
  | .alternatives branches => depthParts branches + 1
  | .sequence parts => depthParts parts + 1
  | _ => 0
def depthParts : List Syntax → Nat
  | [] => 0
  | part :: rest => max part.depth (depthParts rest)
end

mutual
def names : Syntax → List String
  | .repetition _ _ _ body => names body
  | .group (.capture _ name) body => name.toList ++ names body
  | .group (.plain _) body => names body
  | .alternatives branches => namesParts branches
  | .sequence parts => namesParts parts
  | _ => []
def namesParts : List Syntax → List String
  | [] => []
  | part :: rest => names part ++ namesParts rest
end

def maxDepth : Nat := 250

end Syntax

end Pattern

end MockData
