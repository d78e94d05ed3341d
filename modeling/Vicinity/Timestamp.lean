import Vicinity.Json.Decoder
import Vicinity.Text.Blank

/-! Points in time as records carry them: a date, a time of day and an offset. White space may
stand between the numbers. -/
namespace Vicinity

structure Timestamp where
  year : Int
  month : Nat
  day : Nat
  hour : Nat
  minute : Nat
  second : Nat
  nanosecond : Nat
  /-- Seconds east of Greenwich. -/
  offset : Int

namespace Timestamp

open Decimal Text

/-- A piece of text is read off the front. -/
abbrev Reader (α : Type) := List Char → Option (α × List Char)

def blanks : List Char → List Char := List.dropWhile isBlank

/-- A number of at least one and at most `width` digits. -/
def number (width : Nat) : Reader Nat := fun cs =>
  let taken := (cs.take width).takeWhile Char.isDigit
  if taken.isEmpty then none
  else some (ofDigits (taken.map fun c => c.toNat - 48), cs.drop taken.length)

/-- White space and then a number. -/
def digits (width : Nat) : Reader Nat := fun cs => number width (blanks cs)

/-- A year has four digits at most, or a sign and then any number of them. -/
def readYear : Reader Int := fun cs =>
  match blanks cs with
  | '-' :: cs => (number cs.length cs).map fun (n, cs) => (-(n : Int), cs)
  | '+' :: cs => (number cs.length cs).map fun (n, cs) => ((n : Int), cs)
  | cs => (number 4 cs).map fun (n, cs) => ((n : Int), cs)

/-- White space and then one given character. -/
def mark (c : Char) : List Char → Option (List Char) := fun cs =>
  match blanks cs with
  | d :: cs => if d = c then some cs else none
  | [] => none

/-- A fraction of a second; digits after the ninth are dropped. -/
def readFraction : Reader Nat := fun cs =>
  match cs with
  | '.' :: rest =>
    let ds := rest.takeWhile Char.isDigit
    if ds.isEmpty then none
    else
      let nine := (ds.take 9).map fun c => c.toNat - 48
      some (ofDigits (nine ++ List.replicate (9 - nine.length) 0), rest.drop ds.length)
  | cs => some (0, cs)

def twoDigits : Reader Nat := fun cs =>
  match cs with
  | a :: b :: cs =>
    if a.isDigit ∧ b.isDigit then some ((a.toNat - 48) * 10 + (b.toNat - 48), cs) else none
  | _ => none

def signedOffset (negative : Bool) : Reader Int := fun cs => do
  let (hours, cs) ← twoDigits cs
  let cs := cs.dropWhile fun c => c = ':' ∨ isBlank c
  let (minutes, cs) ← twoDigits cs
  if minutes < 60 then
    let seconds : Int := hours * 3600 + minutes * 60
    some (if negative then -seconds else seconds, cs)
  else none

def readOffset : Reader Int := fun cs =>
  match cs with
  | 'Z' :: cs | 'z' :: cs => some (0, cs)
  | '+' :: cs => signedOffset false cs
  | '-' :: cs | '−' :: cs => signedOffset true cs
  | u :: t :: c :: cs =>
    if [u.toUpper, t.toUpper, c.toUpper] = ['U', 'T', 'C'] then some (0, cs) else none
  | _ => none

def isLeap (year : Int) : Bool := year % 4 = 0 ∧ (year % 100 ≠ 0 ∨ year % 400 = 0)

def daysIn (year : Int) (month : Nat) : Nat :=
  match month with
  | 2 => if isLeap year then 29 else 28
  | 4 | 6 | 9 | 11 => 30
  | _ => 31

/-- The second of the day at Greenwich, which may lie on the day before or after; a leap second
shares its number with the second before it. -/
def secondOfDay (t : Timestamp) : Int :=
  t.hour * 3600 + t.minute * 60 + min t.second 59 - t.offset

/-- The sixtieth second is a leap second. Neither the date as written nor the date at Greenwich
lies outside the calendar. -/
def InRange (t : Timestamp) : Prop :=
  -262143 ≤ t.year ∧ t.year ≤ 262142 ∧ 1 ≤ t.month ∧ t.month ≤ 12 ∧ 1 ≤ t.day ∧
    t.day ≤ daysIn t.year t.month ∧ t.hour < 24 ∧ t.minute < 60 ∧ t.second ≤ 60 ∧
    -86400 < t.offset ∧ t.offset < 86400 ∧
    ((t.year, t.month, t.day) = (-262143, 1, 1) → 0 ≤ t.secondOfDay) ∧
    ((t.year, t.month, t.day) = (262142, 12, 31) → t.secondOfDay < 86400)

instance (t : Timestamp) : Decidable t.InRange := by unfold InRange; infer_instance

def parse? (s : String) : Option Timestamp := do
  let (year, cs) ← readYear s.toList
  let cs ← mark '-' cs
  let (month, cs) ← digits 2 cs
  let cs ← mark '-' cs
  let (day, cs) ← digits 2 cs
  let cs ← match cs with
    | 'T' :: cs | 't' :: cs | ' ' :: cs => some cs
    | _ => none
  let (hour, cs) ← digits 2 cs
  let cs ← mark ':' cs
  let (minute, cs) ← digits 2 cs
  let cs ← mark ':' cs
  let (second, cs) ← digits 2 cs
  let (nanosecond, cs) ← readFraction cs
  let (offset, cs) ← readOffset (blanks cs)
  let t : Timestamp := ⟨year, month, day, hour, minute, second, nanosecond, offset⟩
  if (blanks cs).isEmpty ∧ t.InRange then some t else none

def decoder : Json.Decoder Timestamp := fun f n => do
  Json.present (parse? (← Json.Decoder.string f n))

end Timestamp

end Vicinity
