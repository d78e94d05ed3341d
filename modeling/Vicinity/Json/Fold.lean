import Vicinity.Json.Basic

/-! Recursion over the objects of a value: what an object comes to depends on its members and on
what the objects among them come to. -/
namespace Vicinity.Json

mutual

def foldObjects (f : Members → (String → Option α) → α) : Json → Option α
  | .obj ms =>
    let inner := foldMembers f ms
    some (f ms fun key => (inner.lookup key).join)
  | _ => none

def foldMembers (f : Members → (String → Option α) → α) :
    List (String × Json) → List (String × Option α)
  | [] => []
  | (k, v) :: ms => (k, foldObjects f v) :: foldMembers f ms

end

theorem lookup_foldMembers (f : Members → (String → Option α) → α) (ms : Members) (key : String) :
    ((foldMembers f ms).lookup key).join = (ms.get? key).bind (foldObjects f) := by
  unfold Members.get?
  induction ms with
  | nil => simp [foldMembers]
  | cons m ms ih =>
    obtain ⟨k, v⟩ := m
    rw [foldMembers, List.lookup_cons, List.lookup_cons]
    split
    · simp
    · exact ih

theorem foldObjects_obj (f : Members → (String → Option α) → α) (ms : Members) :
    foldObjects f (.obj ms) = some (f ms fun key => (ms.get? key).bind (foldObjects f)) := by
  rw [foldObjects]
  simp only [lookup_foldMembers]

end Vicinity.Json
