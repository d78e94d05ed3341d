import Vicinity.Decimal.Numeral

/-! JSON values. Integers of 64 bits stay integers, every other number is a double, and the
members of an object stand in the order of their keys, each key once. -/
namespace Vicinity

inductive Number where
  | int (value : Int)
  | float (value : Float)

namespace Number

/-- The integers that are kept exactly: those of a signed or an unsigned 64-bit word. -/
def inRange (i : Int) : Bool := -0x8000000000000000 ≤ i && i < 0x10000000000000000

/-- Numbers that can be converted are compared and ordered as doubles. -/
def toFloat : Number → Float
  | .int (.ofNat n) => Decimal.doubleOfWord n
  | .int (.negSucc n) => -Decimal.doubleOfWord (n + 1)
  | .float x => x

/-- The number that a numeral stands for; `none` beyond the largest double. A bare minus zero and
integers out of range are doubles. -/
def ofNumeral (bare : Bool) (n : Decimal.Numeral) : Option Number :=
  let (v, taken) := Decimal.takeDigits 0 n.whole
  if bare && taken == n.whole.length then
    if !n.negative then some (.int v)
    else if v ≠ 0 ∧ v ≤ 0x8000000000000000 then some (.int (-v))
    else some (.float (-Decimal.doubleOfWord v))
  else n.scaled.map .float

def beq : Number → Number → Bool
  | .int a, .int b => a == b
  | .float a, .float b => a == b
  | _, _ => false

instance : BEq Number := ⟨beq⟩

end Number

inductive Json where
  | null
  | bool (value : Bool)
  | num (value : Number)
  | str (value : String)
  | arr (items : List Json)
  | obj (members : List (String × Json))

/-- The members of an object. -/
abbrev Members := List (String × Json)

namespace Members

def get? (ms : Members) (key : String) : Option Json := ms.lookup key

def contains (ms : Members) (key : String) : Bool := (ms.get? key).isSome

def keys (ms : Members) : List String := ms.map (·.1)

/-- Puts a member in its place; it replaces one of the same key. -/
def insert (key : String) (value : Json) : Members → Members
  | [] => [(key, value)]
  | (k, v) :: ms =>
    if key < k then (key, value) :: (k, v) :: ms
    else if key = k then (key, value) :: ms
    else (k, v) :: insert key value ms

/-- The object with the given members; of equal keys the last one counts. -/
def ofList (ms : List (String × Json)) : Members :=
  ms.foldl (fun acc m => acc.insert m.1 m.2) []

end Members

namespace Json

def object (ms : List (String × Json)) : Json := .obj (Members.ofList ms)

def int (i : Int) : Json := .num (.int i)

def str? : Json → Option String
  | .str s => some s
  | _ => none

def obj? : Json → Option Members
  | .obj ms => some ms
  | _ => none

def num? : Json → Option Number
  | .num n => some n
  | _ => none

/-! Equality tells an integer from a double and does not tell the two zeros apart. -/

mutual

def beq : Json → Json → Bool
  | .null, .null => true
  | .bool a, .bool b => a == b
  | .num a, .num b => a == b
  | .str a, .str b => a == b
  | .arr xs, .arr ys => beqItems xs ys
  | .obj xs, .obj ys => beqMembers xs ys
  | _, _ => false

def beqItems : List Json → List Json → Bool
  | [], [] => true
  | x :: xs, y :: ys => beq x y && beqItems xs ys
  | _, _ => false

def beqMembers : List (String × Json) → List (String × Json) → Bool
  | [], [] => true
  | (k, x) :: xs, (l, y) :: ys => k == l && beq x y && beqMembers xs ys
  | _, _ => false

end

instance : BEq Json := ⟨beq⟩

/-! A value is ordered if the keys of every object in it ascend strictly. -/

mutual

def Ordered : Json → Prop
  | .arr xs => OrderedItems xs
  | .obj ms => (ms.map (·.1)).Pairwise (· < ·) ∧ OrderedMembers ms
  | _ => True

def OrderedItems : List Json → Prop
  | [] => True
  | x :: xs => x.Ordered ∧ OrderedItems xs

def OrderedMembers : List (String × Json) → Prop
  | [] => True
  | (_, v) :: ms => v.Ordered ∧ OrderedMembers ms

end

/-! A value is integral if every number in it is an integer in range. -/

mutual

def Integral : Json → Prop
  | .num (.int i) => Number.inRange i
  | .num (.float _) => False
  | .arr xs => IntegralItems xs
  | .obj ms => IntegralMembers ms
  | _ => True

def IntegralItems : List Json → Prop
  | [] => True
  | x :: xs => x.Integral ∧ IntegralItems xs

def IntegralMembers : List (String × Json) → Prop
  | [] => True
  | (_, v) :: ms => v.Integral ∧ IntegralMembers ms

end

/-! The depth of a value counts the arrays and objects around its innermost part. -/

mutual

def depth : Json → Nat
  | .arr xs => depthItems xs + 1
  | .obj ms => depthMembers ms + 1
  | _ => 0

def depthItems : List Json → Nat
  | [] => 0
  | x :: xs => max x.depth (depthItems xs)

def depthMembers : List (String × Json) → Nat
  | [] => 0
  | (_, v) :: ms => max v.depth (depthMembers ms)

end

end Json

end Vicinity
