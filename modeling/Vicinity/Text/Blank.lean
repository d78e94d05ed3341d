import Vicinity.Text.Ranges

/-! White space and trimming. The class is Unicode White_Space, larger than the four ASCII
characters that the core library knows. -/
namespace Vicinity.Text

def blanks : List (Nat × Nat) := [
  (0x9, 0xD), (0x20, 0x20), (0x85, 0x85), (0xA0, 0xA0), (0x1680, 0x1680), (0x2000, 0x200A),
  (0x2028, 0x2029), (0x202F, 0x202F), (0x205F, 0x205F), (0x3000, 0x3000)]

def isBlank (c : Char) : Bool := within blanks c

/-- Removes white space from both ends. -/
def trim (cs : List Char) : List Char :=
  ((cs.dropWhile isBlank).reverse.dropWhile isBlank).reverse

/-- A text is trimmed if it neither begins nor ends with white space. -/
def Trimmed (cs : List Char) : Prop :=
  cs.head?.all (!isBlank ·) ∧ cs.getLast?.all (!isBlank ·)

theorem dropWhile_of_head {p : α → Bool} {l : List α} (h : l.head?.all (!p ·)) :
    l.dropWhile p = l := by
  cases l with
  | nil => rfl
  | cons a l => simp_all

theorem head_dropWhile (p : α → Bool) (l : List α) : (l.dropWhile p).head?.all (!p ·) := by
  induction l with
  | nil => rfl
  | cons a l ih => by_cases h : p a <;> simp_all

theorem trim_of_trimmed {cs : List Char} (h : Trimmed cs) : trim cs = cs := by
  rw [trim, dropWhile_of_head h.1, dropWhile_of_head (by simpa using h.2), List.reverse_reverse]

theorem getLast_dropWhile {p : α → Bool} {l : List α} (h : l.getLast?.all (!p ·)) :
    (l.dropWhile p).getLast?.all (!p ·) := by
  induction l with
  | nil => rfl
  | cons a l ih =>
    by_cases ha : p a
    · rw [List.dropWhile_cons_of_pos ha]
      cases l with
      | nil => simp
      | cons b l => exact ih (by simpa using h)
    · rwa [List.dropWhile_cons_of_neg ha]

theorem trimmed_trim (cs : List Char) : Trimmed (trim cs) := by
  refine ⟨?_, ?_⟩
  · simp only [trim, List.head?_reverse]
    exact getLast_dropWhile (by simpa using head_dropWhile isBlank cs)
  · simpa [trim] using head_dropWhile isBlank (cs.dropWhile isBlank).reverse

end Vicinity.Text
