/-! Decimals as they are written, and the doubles they stand for. There are two readings: the
nearest double, and a scaled reading that rounds twice but needs only one word of digits. -/
namespace Vicinity.Decimal

structure Numeral where
  negative : Bool
  whole : List Nat
  fraction : List Nat
  exponent : Int

/-- How many values a word has. -/
def word : Nat := 0x10000000000000000

/-- Appends digits to `v` while the result fits a word; gives it with the number of digits
taken. -/
def takeDigits (v : Nat) : List Nat → Nat × Nat
  | [] => (v, 0)
  | d :: ds =>
    if v * 10 + d < word then
      let (w, taken) := takeDigits (v * 10 + d) ds
      (w, taken + 1)
    else (v, 0)

/-- The powers of ten that a double can come near, from the zeroth on. -/
def powersOfTen : Array Float :=
  Array.ofFn fun (e : Fin 309) => OfScientific.ofScientific 1 false e.val

def powerOfTen (e : Nat) : Float := powersOfTen.getD e (1.0 / 0.0)

/-- A natural number below `word` as a double. -/
def doubleOfWord (v : Nat) : Float := (UInt64.ofNat v).toFloat

/-- `v · 10^e` with one rounding for `v` and one for the scale; `none` beyond the largest
double. -/
def scale (v : Nat) (e : Int) : Option Float :=
  let x := doubleOfWord v
  match e with
  | .ofNat e =>
    if v = 0 then some x
    else if e ≤ 308 then
      let y := x * powerOfTen e
      if y.isInf then none else some y
    else none
  | .negSucc e =>
    if e + 1 ≤ 308 then some (x / powerOfTen (e + 1))
    else if e + 1 ≤ 616 then some (x / powerOfTen 308 / powerOfTen (e + 1 - 308))
    else some 0.0

def signed (negative : Bool) (x : Float) : Float := if negative then -x else x

/-- The scaled reading: of the whole part and of the fraction the leading digits that fit one
word count, digits left out of the whole part raise the exponent, and the other digits are
dropped. -/
def Numeral.scaled (n : Numeral) : Option Float :=
  let (v, inWhole) := takeDigits 0 n.whole
  let (w, inFraction) := takeDigits v n.fraction
  (scale w ((n.whole.length - inWhole : Nat) - (inFraction : Int) + n.exponent)).map
    (signed n.negative)

def ofDigits (ds : List Nat) : Nat := ds.foldl (fun v d => v * 10 + d) 0

/-- As `ofDigits` while the number is below `bound`; digits after that do not count. -/
def ofDigitsBelow (bound : Nat) (ds : List Nat) : Nat :=
  ds.foldl (fun v d => if v < bound then v * 10 + d else v) 0

/-- The double nearest to the numeral, a tie going to the even one. Magnitudes far outside the
range of doubles are settled without computing the power. -/
def Numeral.nearest (n : Numeral) : Float :=
  let v := ofDigits (n.whole ++ n.fraction)
  let e := n.exponent - n.fraction.length
  let top := e + ((n.whole ++ n.fraction).dropWhile (· == 0)).length
  let magnitude : Float :=
    if v = 0 ∨ top < -400 then 0.0
    else if top > 400 then 1.0 / 0.0
    else match e with
      | .ofNat e => OfScientific.ofScientific v false e
      | .negSucc e => OfScientific.ofScientific v true (e + 1)
  signed n.negative magnitude

def digit? (c : Char) : Option Nat :=
  if '0' ≤ c ∧ c ≤ '9' then some (c.toNat - 48) else none

/-- The digits at the start of a text and the text after them. -/
def spanDigits : List Char → List Nat × List Char
  | [] => ([], [])
  | c :: cs =>
    match digit? c with
    | some d => let (ds, rest) := spanDigits cs; (d :: ds, rest)
    | none => ([], c :: cs)

/-- Splits off a sign; true stands for minus. -/
def splitSign : List Char → Bool × List Char
  | '-' :: cs => (true, cs)
  | '+' :: cs => (false, cs)
  | cs => (false, cs)

/-- The exponent part of a numeral, which ends the text; no text stands for zero. Its digits count
while it is below `0x10000`. -/
def readExponent : List Char → Option Int
  | [] => some 0
  | c :: cs =>
    if c = 'e' ∨ c = 'E' then
      let (negative, cs) := splitSign cs
      match spanDigits cs with
      | ([], _) => none
      | (ds, []) =>
        let e : Int := ofDigitsBelow 0x10000 ds
        some (if negative then -e else e)
      | _ => none
    else none

def readUnsigned (cs : List Char) : Option Float :=
  let (whole, rest) := spanDigits cs
  let (fraction, rest) := match rest with
    | '.' :: rest => spanDigits rest
    | _ => ([], rest)
  if whole.isEmpty && fraction.isEmpty then none
  else (readExponent rest).map fun e => Numeral.nearest ⟨false, whole, fraction, e⟩

def readMagnitude (cs : List Char) : Option Float :=
  match String.ofList (cs.map Char.toLower) with
  | "inf" | "infinity" => some (1.0 / 0.0)
  | "nan" => some (0.0 / 0.0)
  | _ => readUnsigned cs

section

open Float.Model Float.Model.UnpackedFloat

theorem msb_packComponents (f : Format) (e : BitVec f.exponentBits)
    (m : BitVec f.mantissaBitsWithoutImplicit) :
    (packComponents f .positive e m).msb = false := by
  simp [packComponents, BitVec.msb_append, Sign.toBitVec]

theorem msb_pack_abs (u : UnpackedFloat) : (u.abs.pack .binary64).msb = false := by
  have either {c : Prop} [Decidable c] {a b : BitVec 64} (first : a.msb = false)
      (second : b.msb = false) : (if c then a else b).msb = false := by split <;> assumption
  cases u with
  | notANumber => exact msb_packComponents ..
  | infinity => exact msb_packComponents ..
  | zero => exact msb_packComponents ..
  | finite s m e positive =>
    exact either (msb_packComponents ..) (either (msb_packComponents ..) (msb_packComponents ..))

theorem abs_unsigned (x : Float) : x.abs.toBits.toBitVec.msb = false := msb_pack_abs _

end

/-- A double whose sign stands apart from its magnitude, so that also a NaN keeps one. -/
structure Signed where
  negative : Bool
  magnitude : Float
  unsigned : magnitude.toBits.toBitVec.msb = false

namespace Signed

/-- A double under a sign; the one that it has itself does not count. -/
def under (negative : Bool) (x : Float) : Signed := ⟨negative, x.abs, abs_unsigned x⟩

def toFloat (x : Signed) : Float := signed x.negative x.magnitude

/-- The sign of a NaN is not seen, and counts as plus. -/
def ofFloat (x : Float) : Signed := under (0x8000000000000000 ≤ x.toBits.toNat) x

/-- The place in the total order of doubles: the larger the magnitude the farther from the
middle, minus zero before zero, and a NaN beyond the infinity of its sign. -/
def rank (x : Signed) : Int :=
  let bits := x.magnitude.toBits.toNat
  if x.negative then -bits - 1 else bits

/-- Reads a double: an optional sign, then a decimal with a digit on at least one side of an
optional point and an optional exponent, or one of the words inf, infinity and nan in any
case. -/
def read (cs : List Char) : Option Signed :=
  let (negative, cs) := splitSign cs
  (readMagnitude cs).map (under negative)

end Signed

end Vicinity.Decimal
