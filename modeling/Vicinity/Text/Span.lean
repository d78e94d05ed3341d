/-! Spans of time as people write them: in the largest unit that is not zero. -/
namespace Vicinity.Text

/-- The digits after the point, without zeros at the end. -/
def thousandths (n : Nat) : String :=
  if n % 100 = 0 then toString (n / 100)
  else if n % 10 = 0 then toString (n / 100) ++ toString (n / 10 % 10)
  else toString (n / 100) ++ toString (n / 10 % 10) ++ toString (n % 10)

def span (milliseconds : Nat) : String :=
  if milliseconds = 0 then "0ns"
  else if milliseconds < 1000 then toString milliseconds ++ "ms"
  else
    let whole := toString (milliseconds / 1000)
    if milliseconds % 1000 = 0 then whole ++ "s"
    else whole ++ "." ++ thousandths (milliseconds % 1000) ++ "s"

end Vicinity.Text
