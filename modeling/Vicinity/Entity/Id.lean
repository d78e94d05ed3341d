import Vicinity.Text.Lowercase
import Vicinity.Text.Split

/-! Names of participants. An id is kept in one normal form, so that two spellings that differ
only in case or in white space around them name the same participant. -/
namespace Vicinity

open Text

structure EntityId where
  text : String
  normal : String.ofList (lower (trim text.toList)) = text
  deriving DecidableEq

namespace EntityId

theorem normal_of (s : String) :
    String.ofList (lower (trim (String.ofList (lower (trim s.toList))).toList)) =
      String.ofList (lower (trim s.toList)) := by
  rw [String.toList_ofList, trim_of_trimmed (trimmed_lower (trimmed_trim s.toList)), lower_lower]

/-- The id that a text spells. -/
def of (s : String) : EntityId := ⟨String.ofList (lower (trim s.toList)), normal_of s⟩

@[ext] theorem ext {a b : EntityId} (h : a.text = b.text) : a = b := by
  cases a; cases b; cases h; rfl

@[simp] theorem of_text (id : EntityId) : of id.text = id := ext id.normal

def isEmpty (id : EntityId) : Bool := id.text.isEmpty

/-- A beacon id names a place in a hierarchy: its parts between colons, empty ones left out. -/
def tokens (id : EntityId) : List (List Char) :=
  (split ':' id.text.toList).filter (!·.isEmpty)

instance : Inhabited EntityId := ⟨of ""⟩

end EntityId

end Vicinity
