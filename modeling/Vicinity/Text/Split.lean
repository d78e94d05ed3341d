/-! Parts of a text between separators. -/
namespace Vicinity.Text

/-- The parts in order, empty ones included; there is always at least one. -/
def split (separator : Char) : List Char → List (List Char)
  | [] => [[]]
  | c :: cs =>
    if c = separator then [] :: split separator cs
    else match split separator cs with
      | [] => [[c]]
      | part :: parts => (c :: part) :: parts

end Vicinity.Text
