/-! The shortest decimal that reads back as a given double. A double `m · 2^q` owns the interval
of reals that round to it; the search goes through decimal grids from coarse to fine, and on
each grid only the two neighbours of the double can lie inside. -/
namespace Vicinity.Decimal

/-- A positive double, in quarters of its unit: the interval that rounds to it is
`[4m - below, 4m + 2] · 2^(q-2)`, with its ends if `m` is even. -/
structure Binary where
  m : Nat
  q : Int
  below : Nat

/-- The magnitude of a finite double given by its bits. -/
def Binary.ofBits (bits : Nat) : Binary :=
  let e : Nat := bits / 0x10000000000000 % 0x800
  let f := bits % 0x10000000000000
  if e = 0 then ⟨f, -1074, 2⟩
  else ⟨0x10000000000000 + f, (e : Int) - 1075, if f = 0 ∧ 1 < e then 1 else 2⟩

/-- `2^e` split over numerator and denominator. -/
def power (base : Nat) (e : Int) : Nat × Nat :=
  match e with
  | .ofNat e => (Nat.pow base e, 1)
  | .negSucc e => (1, Nat.pow base (e + 1))

/-- The point of the grid of multiples of `10^k` that lies in the interval, the nearer if two
do, the even one if they are equally near. -/
def Binary.onGrid? (b : Binary) (k : Int) : Option Nat :=
  let (twos, halves) := power 2 (b.q - 2)
  let (tens, tenths) := power 10 k
  let unit := tens * halves
  let quarter := twos * tenths
  let value := 4 * b.m * quarter
  let lowest := (4 * b.m - b.below) * quarter
  let highest := (4 * b.m + 2) * quarter
  let inside (c : Nat) : Bool :=
    if b.m % 2 = 0 then lowest ≤ c * unit && c * unit ≤ highest
    else lowest < c * unit && c * unit < highest
  let c := value / unit
  match inside c, inside (c + 1) with
  | false, false => none
  | true, false => some c
  | false, true => some (c + 1)
  | true, true =>
    let down := value - c * unit
    let up := (c + 1) * unit - value
    if down < up ∨ (down = up ∧ c % 2 = 0) then some c else some (c + 1)

/-- Whether `10^k ≤ n / d`. -/
def reaches (n d : Nat) (k : Int) : Bool :=
  let (tens, tenths) := power 10 k
  tens * d ≤ n * tenths

/-- The last of the exponents from `k` on, at most `tries` of them, that `n / d` reaches. -/
def climb (n d : Nat) (k : Int) : Nat → Int
  | 0 => k
  | tries + 1 => if reaches n d (k + 1) then climb n d (k + 1) tries else k

/-- The exponent of the leading decimal digit of a positive `n / d`. Bit lengths tell the
quotient up to a factor of four, and so its exponent up to three places; `30103 / 100000` is the
logarithm of two. -/
def leadingPlace (n d : Nat) : Int :=
  let bits : Int := (Nat.log2 n : Int) - Nat.log2 d - 1
  climb n d (bits * 30103 / 100000 - 1) 4

def stripZeros (c : Nat) : Nat → Nat
  | 0 => c
  | fuel + 1 => if c ≠ 0 ∧ c % 10 = 0 then stripZeros (c / 10) fuel else c

/-- Digits of a decimal without trailing zeros, and the exponent of the first of them. -/
structure Digits where
  digits : List Char
  place : Int

/-- Seventeen digits always suffice. -/
def Binary.shortest (b : Binary) : Digits :=
  let (twos, halves) := power 2 b.q
  let p := leadingPlace (b.m * twos) halves
  let found := (List.range 17).findSome? fun (n : Nat) =>
    (b.onGrid? (p - n)).map fun c => (c, p - n)
  let (c, k) := found.getD (0, 0)
  let written := Nat.toDigits 10 c
  ⟨Nat.toDigits 10 (stripZeros c 18), k + written.length - 1⟩

/-- Where positional notation begins and ends: exponents of the leading digit from `lowest` to
`highest` are written positionally, others with an exponent mark and a sign. -/
structure Layout where
  lowest : Int
  highest : Int

def Layout.positional (digits : List Char) (place : Int) : List Char :=
  match place with
  | .negSucc n => '0' :: '.' :: (List.replicate n '0' ++ digits)
  | .ofNat n =>
    let padded := digits ++ List.replicate (n + 1 - digits.length) '0'
    let fraction := padded.drop (n + 1)
    padded.take (n + 1) ++ '.' :: (if fraction.isEmpty then ['0'] else fraction)

def Layout.scientific (digits : List Char) (place : Int) : List Char :=
  let mantissa := match digits with
    | d :: e :: ds => d :: '.' :: e :: ds
    | ds => ds
  mantissa ++ 'e' :: (if place < 0 then '-' else '+') :: Nat.toDigits 10 place.natAbs

/-- The text of a finite double. -/
def Layout.write (l : Layout) (x : Float) : List Char :=
  let bits := x.toBits.toNat
  let magnitude := bits % 0x8000000000000000
  let text :=
    if magnitude = 0 then ['0', '.', '0']
    else
      let d := (Binary.ofBits magnitude).shortest
      if l.lowest ≤ d.place ∧ d.place ≤ l.highest then Layout.positional d.digits d.place
      else Layout.scientific d.digits d.place
  if magnitude < bits then '-' :: text else text

end Vicinity.Decimal
