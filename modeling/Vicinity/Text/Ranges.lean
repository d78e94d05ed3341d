/-! Classes of characters given by closed ranges of code points. -/
namespace Vicinity.Text

def within (ranges : List (Nat × Nat)) (c : Char) : Bool :=
  ranges.any fun (first, last) => first ≤ c.toNat && c.toNat ≤ last

end Vicinity.Text
