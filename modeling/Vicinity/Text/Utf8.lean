/-! The characters of a byte sequence that may not be well-formed UTF-8. -/
namespace Vicinity.Text

/-- Puts the characters from byte `i` on in front of those read before, latest first; `none`
stands for a byte that begins no character. -/
def unitsOnto (read : List (Option Char)) (bytes : ByteArray) (i : Nat) : List (Option Char) :=
  if i < bytes.size then
    match bytes.utf8DecodeChar? i with
    | some c => unitsOnto (some c :: read) bytes (i + c.utf8Size)
    | none => unitsOnto (none :: read) bytes (i + 1)
  else read
termination_by bytes.size - i
decreasing_by
  · have := c.utf8Size_pos; omega
  · omega

def units (bytes : ByteArray) : List (Option Char) := (unitsOnto [] bytes 0).reverse

theorem size_utf8Encode_singleton (c : Char) : [c].utf8Encode.size = c.utf8Size := by
  rw [List.utf8Encode_singleton, List.size_toByteArray, String.length_utf8EncodeChar]

/-- From a place between two characters on, every byte belongs to a character. -/
theorem unitsOnto_utf8Encode (read : List (Option Char)) (before cs : List Char) :
    unitsOnto read (before ++ cs).utf8Encode before.utf8Encode.size =
      (cs.map some).reverse ++ read := by
  induction cs generalizing read before with
  | nil =>
    rw [unitsOnto, List.append_nil, if_neg (Nat.lt_irrefl _)]
    rfl
  | cons c cs ih =>
    have rest : (before ++ c :: cs).utf8Encode.extract before.utf8Encode.size
        (before ++ c :: cs).utf8Encode.size = (c :: cs).utf8Encode := by
      rw [List.utf8Encode_append, ByteArray.size_append, ByteArray.extract_append_eq_right rfl rfl]
    have decoded : (before ++ c :: cs).utf8Encode.utf8DecodeChar? before.utf8Encode.size =
        some c := by
      rw [ByteArray.utf8DecodeChar?_eq_utf8DecodeChar?_extract, rest,
        List.utf8DecodeChar?_utf8Encode_cons]
    have inside : before.utf8Encode.size < (before ++ c :: cs).utf8Encode.size := by
      have := c.utf8Size_pos
      rw [List.utf8Encode_append, List.utf8Encode_cons, ByteArray.size_append,
        ByteArray.size_append, size_utf8Encode_singleton]
      omega
    have next : before.utf8Encode.size + c.utf8Size = (before ++ [c]).utf8Encode.size := by
      rw [List.utf8Encode_append, ByteArray.size_append, size_utf8Encode_singleton]
    have later := ih (some c :: read) (before ++ [c])
    rw [unitsOnto, if_pos inside, decoded]
    simp only
    rw [next]
    simpa using later

theorem units_toUTF8 (s : String) : units s.toUTF8 = s.toList.map some := by
  have whole := unitsOnto_utf8Encode [] [] s.toList
  rw [List.nil_append, String.utf8Encode_toList, List.append_nil, List.utf8Encode_nil,
    ByteArray.size_empty] at whole
  rw [units, String.toUTF8_eq_toByteArray, whole, List.reverse_reverse]

end Vicinity.Text
