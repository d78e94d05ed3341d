import Vicinity.Json.Decoder

/-! Coarse distances, ordered by growing uncertainty. -/
namespace Vicinity

inductive Distance where
  | immediate
  | nextTo
  | near
  | far
  | remote
  | sameBeacon
  | sameWifi
  | unknown
  deriving DecidableEq

namespace Distance

def all : List Distance :=
  [immediate, nextTo, near, far, remote, sameBeacon, sameWifi, unknown]

def ordinal : Distance → Nat
  | immediate => 0
  | nextTo => 1
  | near => 2
  | far => 3
  | remote => 4
  | sameBeacon => 5
  | sameWifi => 6
  | unknown => 7

instance : LE Distance := ⟨fun a b => a.ordinal ≤ b.ordinal⟩
instance : LT Distance := ⟨fun a b => a.ordinal < b.ordinal⟩
instance (a b : Distance) : Decidable (a ≤ b) := inferInstanceAs (Decidable (a.ordinal ≤ b.ordinal))
instance (a b : Distance) : Decidable (a < b) := inferInstanceAs (Decidable (a.ordinal < b.ordinal))
instance : Min Distance := ⟨fun a b => if b < a then b else a⟩

theorem le_def {a b : Distance} : a ≤ b ↔ a.ordinal ≤ b.ordinal := Iff.rfl
theorem lt_def {a b : Distance} : a < b ↔ a.ordinal < b.ordinal := Iff.rfl

/-- The ordinal of a range is its place among all of them. -/
theorem getElem?_all_ordinal (d : Distance) : all[d.ordinal]? = some d := by
  cases d <;> rfl

theorem ordinal_injective {a b : Distance} (h : a.ordinal = b.ordinal) : a = b := by
  have hb := getElem?_all_ordinal b
  rw [← h, getElem?_all_ordinal a] at hb
  exact Option.some.inj hb

/-- Whether `d` is at least as close as `threshold`. -/
def within (d threshold : Distance) : Bool := d ≤ threshold

/-- The range of a distance in metres. A reading that is no number compares as far. -/
def ofMeters (meters : Float) : Distance :=
  if meters < 0.6 then immediate
  else if meters < 2.1 then nextTo
  else if meters < 4.1 then near
  else far

def name : Distance → String
  | immediate => "IMMEDIATE"
  | nextTo => "NEXT_TO"
  | near => "NEAR"
  | far => "FAR"
  | remote => "REMOTE"
  | sameBeacon => "SAME_BEACON"
  | sameWifi => "SAME_WIFI"
  | unknown => "UNKNOWN"

def decoder : Json.Decoder Distance := Json.Decoder.name (all.map fun d => (d.name, d))

def toJson (d : Distance) : Json := .str d.name

end Distance

end Vicinity
