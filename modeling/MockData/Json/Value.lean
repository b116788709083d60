import MockData.Numeric.Binary64

/-!
# JSON values

A number is an integer of 64 bits, signed or unsigned, or a binary64 number; the two kinds stay
apart, so `1` and `1.0` are different values. An object is the list of its members in order.
-/

namespace MockData

/-- A JSON number. An integer fits a signed or an unsigned word of 64 bits. -/
inductive JsonNumber where
  | int (n : Int) (fits : -0x8000000000000000 ≤ n ∧ n < 0x10000000000000000)
  | float (x : Binary64)
  deriving DecidableEq

inductive Json where
  | null
  | bool (b : Bool)
  | number (n : JsonNumber)
  | string (s : String)
  | array (items : List Json)
  | object (members : List (String × Json))

namespace JsonNumber

def ofUInt64 (n : UInt64) : JsonNumber :=
  .int n.toNat ⟨by omega, by have := n.toNat_lt; omega⟩

def ofInt64 (n : Int64) : JsonNumber :=
  .int n.toInt ⟨by have := n.le_toInt; omega, by have := n.toInt_lt; omega⟩

/-- The number as an unsigned word; a binary64 number never is one. -/
def toUInt64? : JsonNumber → Option UInt64
  | .int n _ => if 0 ≤ n then some (UInt64.ofNat n.toNat) else none
  | .float _ => none

/-- The number as a signed word; a binary64 number never is one. -/
def toInt64? : JsonNumber → Option Int64
  | .int n _ => if n < 0x8000000000000000 then some (Int64.ofInt n) else none
  | .float _ => none

def toBinary64? : JsonNumber → Option Binary64
  | .int n _ =>
    match Binary64.ofInt n with
    | .finite x => some x
    | .infinite _ => none
  | .float x => some x

end JsonNumber

namespace Json

def ofUInt64 (n : UInt64) : Json := .number (.ofUInt64 n)

def ofInt64 (n : Int64) : Json := .number (.ofInt64 n)

/-- A magnitude that is too large has no JSON number. -/
def ofRounded : Rounded → Json
  | .finite x => .number (.float x)
  | .infinite _ => .null

def ofOption {α : Type} (f : α → Json) : Option α → Json
  | none => .null
  | some a => f a

def toString? : Json → Option String
  | .string s => some s
  | _ => none

def toBool? : Json → Option Bool
  | .bool b => some b
  | _ => none

def toArray? : Json → Option (List Json)
  | .array items => some items
  | _ => none

def toObject? : Json → Option (List (String × Json))
  | .object members => some members
  | _ => none

def toUInt64? : Json → Option UInt64
  | .number n => n.toUInt64?
  | _ => none

def toInt64? : Json → Option Int64
  | .number n => n.toInt64?
  | _ => none

def toBinary64? : Json → Option Binary64
  | .number n => n.toBinary64?
  | _ => none

def find? (members : List (String × Json)) (key : String) : Option Json :=
  members.lookup key

def hasKey (members : List (String × Json)) (key : String) : Bool :=
  (find? members key).isSome

/-- The member of an object; nothing else has members. -/
def member? (value : Json) (key : String) : Option Json :=
  value.toObject?.bind fun members => find? members key

mutual
/-- No two members of one object share a key, at any depth. -/
def keysDistinct : Json → Bool
  | .array items => keysDistinctItems items
  | .object members => keysDistinctMembers members
  | _ => true
def keysDistinctItems : List Json → Bool
  | [] => true
  | item :: rest => keysDistinct item && keysDistinctItems rest
def keysDistinctMembers : List (String × Json) → Bool
  | [] => true
  | (key, value) :: rest => keysDistinct value && !hasKey rest key && keysDistinctMembers rest
end

mutual
def decEq : (a b : Json) → Decidable (a = b)
  | .null, .null => isTrue rfl
  | .bool a, .bool b => if h : a = b then isTrue (by rw [h]) else isFalse (by simpa using h)
  | .number a, .number b => if h : a = b then isTrue (by rw [h]) else isFalse (by simpa using h)
  | .string a, .string b => if h : a = b then isTrue (by rw [h]) else isFalse (by simpa using h)
  | .array a, .array b =>
    match decEqItems a b with
    | isTrue h => isTrue (by rw [h])
    | isFalse h => isFalse (by simpa using h)
  | .object a, .object b =>
    match decEqMembers a b with
    | isTrue h => isTrue (by rw [h])
    | isFalse h => isFalse (by simpa using h)
  | .null, .bool _ | .null, .number _ | .null, .string _ | .null, .array _ | .null, .object _
  | .bool _, .null | .bool _, .number _ | .bool _, .string _ | .bool _, .array _
  | .bool _, .object _ | .number _, .null | .number _, .bool _ | .number _, .string _
  | .number _, .array _ | .number _, .object _ | .string _, .null | .string _, .bool _
  | .string _, .number _ | .string _, .array _ | .string _, .object _ | .array _, .null
  | .array _, .bool _ | .array _, .number _ | .array _, .string _ | .array _, .object _
  | .object _, .null | .object _, .bool _ | .object _, .number _ | .object _, .string _
  | .object _, .array _ => isFalse (by simp)
def decEqItems : (a b : List Json) → Decidable (a = b)
  | [], [] => isTrue rfl
  | a :: as, b :: bs =>
    match decEq a b, decEqItems as bs with
    | isTrue h, isTrue k => isTrue (by rw [h, k])
    | isFalse h, _ => isFalse (by simp [h])
    | _, isFalse h => isFalse (by simp [h])
  | [], _ :: _ | _ :: _, [] => isFalse (by simp)
def decEqMembers : (a b : List (String × Json)) → Decidable (a = b)
  | [], [] => isTrue rfl
  | (k, a) :: as, (l, b) :: bs =>
    if h : k = l then
      match decEq a b, decEqMembers as bs with
      | isTrue ha, isTrue hs => isTrue (by rw [h, ha, hs])
      | isFalse ha, _ => isFalse (by simp [ha])
      | _, isFalse hs => isFalse (by simp [hs])
    else isFalse (by simp [h])
  | [], _ :: _ | _ :: _, [] => isFalse (by simp)
end

instance : DecidableEq Json := decEq

end Json

end MockData
