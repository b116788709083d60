import MockData.Pattern.Syntax
import MockData.Text.Basic
import MockData.Text.Category

/-!
# Reading patterns

`Syntax.read?` reads a pattern that fills its text. In extended mode blanks and comments between the
parts of a pattern are skipped; a group restores the mode at its end. References to earlier groups,
looking ahead or behind, and sets named by a property of characters are not supported.
-/

namespace MockData

namespace Pattern

namespace Reader

/-- The text that is left, whether blanks are skipped, and how many groups have been opened. -/
structure Cursor where
  text : List Char
  extended : Bool
  groups : Nat

end Reader

abbrev Reader := StateT Reader.Cursor Option

namespace Reader

def peek : Reader (Option Char) := do return (← get).text.head?

def rest : Reader (List Char) := do return (← get).text

def jump (text : List Char) : Reader Unit := modify fun c => { c with text }

def skipExtended (comment : Bool) : List Char → List Char
  | [] => []
  | c :: rest =>
    if comment then skipExtended (c != '\n') rest
    else if Text.isBlank c then skipExtended false rest
    else if c = '#' then skipExtended true rest
    else c :: rest

def skip : Reader Unit := modify fun c =>
  if c.extended then { c with text := skipExtended false c.text } else c

/-- Takes one character and what is skipped after it. -/
def step : Reader Unit := do
  jump (← rest).tail
  skip

/-- Takes one character; something must be left after it. -/
def stepInside : Reader Unit := do
  step
  guard ((← rest) ≠ [])

def character? (code : Nat) : Option Char :=
  if code < 0xD800 ∨ (0xDFFF < code ∧ code < 0x110000) then some (Char.ofNat code) else none

def hexDigits : (n value : Nat) → Reader Nat
  | 0, value => return value
  | n + 1, value => do
    let some c ← peek | failure
    let digit ← Text.hexValue? c
    step
    hexDigits n (16 * value + digit)

def hexInBraces : (fuel : Nat) → Option Nat → Reader Nat
  | 0, _ => failure
  | fuel + 1, value => do
    let some c ← peek | failure
    step
    if c = '}' then
      let code ← value
      return code
    else
      let digit ← Text.hexValue? c
      hexInBraces fuel (some (16 * value.getD 0 + digit))

/-- A character by its code point: `digits` digits, or any number of them in braces. -/
def hexCharacter (digits : Nat) : Reader Syntax := do
  stepInside
  if (← peek) = some '{' then
    step
    let code ← hexInBraces (← rest).length none
    let c ← character? code
    return .char c false
  else
    let code ← hexDigits digits 0
    let c ← character? code
    return .char c (digits == 2)

/-- The characters that stand for themselves after a backslash: all of ASCII but letters, digits
and angle brackets. -/
def isEscapable (c : Char) : Bool := c.toNat < 128 && !c.isAlphanum && c ≠ '<' && c ≠ '>'

def boundaryNames : List String := ["start", "end", "start-half", "end-half"]

def isBoundaryChar (c : Char) : Bool := c.isAlpha || c = '-'

def boundaryName : (fuel : Nat) → List Char → Reader String
  | 0, _ => failure
  | fuel + 1, name => do
    match ← peek with
    | some c =>
      if isBoundaryChar c then
        step
        boundaryName fuel (c :: name)
      else return String.ofList name.reverse
    | none => failure

/-- A word boundary; a brace with a name may follow. Any other brace is a repetition. -/
def boundary : Reader Syntax := do
  let start ← rest
  if start.head? = some '{' then
    stepInside
    match ← peek with
    | some c =>
      if isBoundaryChar c then
        let name ← boundaryName start.length []
        guard ((← peek) = some '}' && boundaryNames.contains name)
        jump (← rest).tail
      else jump start
    | none => failure
  return .assertion

/-- A short class, a control character or an assertion. -/
def letterEscape (c : Char) : Reader Syntax :=
  match c with
  | 'd' => return .short .digit false
  | 'D' => return .short .digit true
  | 's' => return .short .blank false
  | 'S' => return .short .blank true
  | 'w' => return .short .word false
  | 'W' => return .short .word true
  | 'a' => return .char '\x07' false
  | 'f' => return .char '\x0c' false
  | 't' => return .char '\t' false
  | 'n' => return .char '\n' false
  | 'r' => return .char '\r' false
  | 'v' => return .char '\x0b' false
  | 'A' | 'z' | 'B' | '<' | '>' => return .assertion
  | 'b' => boundary
  | _ => failure

def escape : Reader Syntax := do
  jump (← rest).tail
  match ← peek with
  | none => failure
  | some 'x' => hexCharacter 2
  | some 'u' => hexCharacter 4
  | some 'U' => hexCharacter 8
  | some c =>
    jump (← rest).tail
    if isEscapable c then return .char c false else letterEscape c

/-- A part that is neither a group, a class nor a repetition. -/
def primitive (c : Char) : Reader Syntax := do
  if c = '\\' then escape
  else
    jump (← rest).tail
    if c = '.' then return .dot
    else if c = '^' || c = '$' then return .assertion
    else return .char c false

/-- A number below `2 ^ 32`, none without a digit. Blanks may stand on both sides. -/
def decimal : (fuel : Nat) → Option Nat → Reader (Option Nat)
  | 0, _ => failure
  | fuel + 1, value => do
    match ← peek with
    | some c =>
      if c.isDigit then
        let next := 10 * value.getD 0 + (c.toNat - '0'.toNat)
        guard (next < 0x100000000)
        step
        decimal fuel (some next)
      else
        jump (Text.skipBlanks (← rest))
        skip
        return value
    | none => return value

def number : Reader (Option Nat) := do
  jump (Text.skipBlanks (← rest))
  decimal ((← rest).length + 1) none

/-- The bounds of a repetition in braces, after the opening one. -/
def bounds : Reader (Nat × Option Nat) := do
  let first ← number
  match ← peek with
  | some ',' =>
    stepInside
    if (← peek) = some '}' then
      let min ← first
      return (min, none)
    else
      let last ← number
      let min ← first
      let max ← last
      return (min, some max)
  | some _ =>
    let count ← first
    return (count, some count)
  | none => failure

/-- What can be repeated: a part that is not a change of flags. -/
def repeatable : List Syntax → Reader (Syntax × List Syntax)
  | .flags _ :: _ => failure
  | part :: before => return (part, before)
  | [] => failure

/-- A question mark after a repetition makes it lazy. -/
def greedy : Reader Bool := do
  if (← peek) = some '?' then
    jump (← rest).tail
    return false
  else return true

/-- Repeats the last of the parts, which are in reverse order. -/
def repetition (sign : Char) (parts : List Syntax) : Reader (List Syntax) := do
  let (part, before) ← repeatable parts
  if sign = '{' then
    stepInside
    let (min, max) ← bounds
    guard ((← peek) = some '}')
    step
    let eager ← greedy
    guard (max.all fun max => min ≤ max)
    return .repetition min max eager part :: before
  else
    jump (← rest).tail
    let eager ← greedy
    let (min, max) : Nat × Option Nat :=
      if sign = '?' then (0, some 1) else if sign = '*' then (0, none) else (1, none)
    return .repetition min max eager part :: before

def flag? : Char → Option Flag
  | 'i' => some .ignoreCase
  | 'm' => some .multiLine
  | 's' => some .dotAll
  | 'U' => some .lazy
  | 'u' => some .unicode
  | 'R' => some .anyLineEnd
  | 'x' => some .extended
  | _ => none

/-- Flags up to a colon or a closing parenthesis. Each may occur once, and so may the dash that
switches off those behind it. -/
def flagChange (on : Bool) (dash : Bool) (change : FlagChange) :
    List Char → Option (FlagChange × List Char)
  | [] => none
  | c :: rest =>
    if c = ':' || c = ')' then if dash then none else some (change.reverse, c :: rest)
    else if c = '-' then if on then flagChange false true change rest else none
    else
      match flag? c with
      | some flag =>
        if (change.lookup flag).isSome then none
        else flagChange on false ((flag, on) :: change) rest
      | none => none

/-- A letter or an underscore; further on also numeric characters, points and brackets. -/
def isNameChar (first : Bool) (c : Char) : Bool :=
  c = '_' || Text.isLetter c ||
    (!first && (Text.isNumeric c || c = '.' || c = '[' || c = ']'))

def groupName (text : List Char) : Option (String × List Char) :=
  let name := text.takeWhile (· ≠ '>')
  match text.drop name.length, name with
  | _ :: rest, c :: more =>
    if isNameChar true c && more.all (isNameChar false) then some (String.ofList name, rest)
    else none
  | _, _ => none

/-- The start of a group: a change of flags for what follows, or the kind of the group. -/
inductive GroupHead where
  | flags (change : FlagChange)
  | group (kind : GroupKind)

def capture (name : Option String) : Reader GroupHead := do
  let c ← get
  set { c with groups := c.groups + 1 }
  return .group (.capture (c.groups + 1) name)

def namedCapture (text : List Char) : Reader GroupHead := do
  let (name, after) ← groupName text
  jump after
  capture (some name)

/-- Flags and what ends them: with a colon they hold for the group, else for what follows it. -/
def flagHead (text : List Char) : Reader GroupHead := do
  let (change, after) ← flagChange true false [] text
  jump after.tail
  if after.head? = some ':' then return .group (.plain change)
  else
    guard (!change.isEmpty)
    return .flags change

/-- The start of a group, after its parenthesis. -/
def groupHead : Reader GroupHead := do
  skip
  match ← rest with
  | '?' :: '=' :: _ | '?' :: '!' :: _ | '?' :: '<' :: '=' :: _ | '?' :: '<' :: '!' :: _ => failure
  | '?' :: 'P' :: '<' :: text => namedCapture text
  | '?' :: '<' :: text => namedCapture text
  | '?' :: text => flagHead text
  | _ => capture none

/-- Switches to the mode that a change of flags asks for. -/
def applyExtended (change : FlagChange) : Reader Unit := modify fun c =>
  { c with extended := (change.get? .extended).getD c.extended }

/-- A set named between colons, with its brackets. -/
def posixClass? (text : List Char) : Option (ClassSyntax × List Char) :=
  match text with
  | '[' :: ':' :: text =>
    let (negated, text) := match text with
      | '^' :: text => (true, text)
      | text => (false, text)
    let name := text.takeWhile (· ≠ ':')
    match text.drop name.length with
    | ':' :: ']' :: rest =>
      (CharSet.posix? (String.ofList name)).map fun set => (.posix set negated, rest)
    | _ => none
  | _ => none

def classPrimitive (c : Char) : Reader ClassSyntax := do
  if c = '\\' then
    match ← escape with
    | .char c byte => return .char c byte
    | .short kind negated => return .short kind negated
    | _ => failure
  else
    jump (← rest).tail
    return .char c false

/-- The character that decides whether a dash before it makes a range. In extended mode blanks and
the sign of one comment are left out, unless nothing else follows. -/
def afterDash (extended : Bool) (text : List Char) : Option Char :=
  if extended then
    let shown := match Text.skipBlanks text with
      | '#' :: rest => Text.skipBlanks rest
      | rest => rest
    shown.head? <|> text.head?
  else text.head?

/-- A character, a class, or two characters with a dash between them. A dash before a closing
bracket or another dash does not make a range. -/
def classItem (c : Char) : Reader ClassSyntax := do
  let first ← classPrimitive c
  skip
  match ← rest with
  | [] => failure
  | '-' :: text =>
    let next := afterDash (← get).extended text
    if next = some ']' || next = some '-' then return first
    else
      stepInside
      match ← peek with
      | some d =>
        match first, ← classPrimitive d with
        | .char low lowByte, .char high highByte =>
          guard (low ≤ high)
          return .range low high lowByte highByte
        | _, _ => failure
      | none => failure
  | _ => return first

/-- Dashes that open a list stand for themselves. -/
def leadingDashes : (fuel : Nat) → List ClassSyntax → Reader (List ClassSyntax)
  | 0, _ => failure
  | fuel + 1, items => do
    if (← peek) = some '-' then
      stepInside
      leadingDashes fuel (.char '-' false :: items)
    else return items

/-- The start of a list, after its bracket: whether it is negated, and the dashes or the closing
bracket that stand for themselves there. -/
def classHead : Reader (Bool × List ClassSyntax) := do
  stepInside
  let negated := (← peek) = some '^'
  if negated then stepInside
  let dashes ← leadingDashes (← rest).length []
  if dashes.isEmpty && (← peek) = some ']' then
    stepInside
    return (negated, [.char ']' false])
  else return (negated, dashes)

def operation? : List Char → Option ClassOperation
  | '&' :: '&' :: _ => some .intersection
  | '-' :: '-' :: _ => some .difference
  | '~' :: '~' :: _ => some .symmetricDifference
  | _ => none

def combine (left : Option (ClassOperation × ClassSyntax)) (items : List ClassSyntax) :
    ClassSyntax :=
  let right := ClassSyntax.ofItems items.reverse
  match left with
  | some (operation, left) => .combined operation left right
  | none => right

mutual
def bracketed : (fuel : Nat) → Reader (Bool × ClassSyntax)
  | 0 => failure
  | fuel + 1 => do
    let (negated, items) ← classHead
    let body ← classBody fuel none items
    return (negated, body)
/-- The items of a list up to its closing bracket, in reverse order. -/
def classBody : (fuel : Nat) → Option (ClassOperation × ClassSyntax) → List ClassSyntax →
    Reader ClassSyntax
  | 0, _, _ => failure
  | fuel + 1, left, items => do
    skip
    let text ← rest
    match text with
    | [] => failure
    | ']' :: text =>
      jump text
      return combine left items
    | c :: _ =>
      match operation? text with
      | some operation =>
        jump (text.drop 2)
        classBody fuel (some (operation, combine left items)) []
      | none =>
        if c = '[' then
          match posixClass? text with
          | some (item, text) =>
            jump text
            classBody fuel left (item :: items)
          | none =>
            let (negated, body) ← bracketed fuel
            classBody fuel left (.bracketed negated body :: items)
        else
          let item ← classItem c
          classBody fuel left (item :: items)
end

mutual
/-- Alternatives up to the end of a group. `branches` are those before, in reverse order. -/
def alternatives : (fuel : Nat) → List Syntax → Reader Syntax
  | 0, _ => failure
  | fuel + 1, branches => do
    let parts ← sequence fuel []
    let branches := Syntax.ofParts parts.reverse :: branches
    if (← peek) = some '|' then
      jump (← rest).tail
      alternatives fuel branches
    else return Syntax.ofBranches branches.reverse
/-- The parts of a branch. `parts` are those before, in reverse order. -/
def sequence : (fuel : Nat) → List Syntax → Reader (List Syntax)
  | 0, _ => failure
  | fuel + 1, parts => do
    skip
    match ← peek with
    | none | some ')' | some '|' => return parts
    | some '(' =>
      let part ← group fuel
      sequence fuel (part :: parts)
    | some '[' =>
      let (negated, body) ← bracketed ((← rest).length + 2)
      sequence fuel (.bracketed negated body :: parts)
    | some c =>
      if c = '?' || c = '*' || c = '+' || c = '{' then
        sequence fuel (← repetition c parts)
      else
        let part ← primitive c
        sequence fuel (part :: parts)
def group : (fuel : Nat) → Reader Syntax
  | 0 => failure
  | fuel + 1 => do
    jump (← rest).tail
    match ← groupHead with
    | .flags change =>
      applyExtended change
      return .flags change
    | .group kind =>
      let extended := (← get).extended
      match kind with
      | .plain change => applyExtended change
      | .capture _ _ => pure ()
      let body ← alternatives fuel []
      guard ((← peek) = some ')')
      modify fun c => { c with text := c.text.tail, extended }
      return .group kind body
end

end Reader

/-- Reads a pattern. No two groups share a name, and nesting is limited. -/
def Syntax.read? (pattern : String) : Option Syntax := do
  let text := pattern.toList
  let (tree, left) ← (Reader.alternatives (3 * text.length + 3) []).run ⟨text, false, 0⟩
  guard (left.text = [] && tree.depth ≤ Syntax.maxDepth && tree.names.Nodup)
  return tree

end Pattern

end MockData
