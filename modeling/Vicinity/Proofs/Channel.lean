import Vicinity.Engine.Query

/-! Names on the network. The name of a reply channel can be told from that of every other channel
a node listens to, so listening to one never hides or ends listening to another. -/
namespace Vicinity

open Text

/-- No letter of an id is a capital. -/
theorem EntityId.settled (id : EntityId) : ∀ c ∈ id.text.toList, Settled c := by
  rw [← id.normal,String.toList_ofList]
  exact settled_lowerAfter [] _

theorem EntityId.trimmed (id : EntityId) : Trimmed id.text.toList := by
  rw [← id.normal,String.toList_ofList]
  exact trimmed_lower (trimmed_trim _)

theorem capital_T : ¬ Settled 'T' := by decide +kernel

namespace Engine

theorem replyTopic_ne_entity (token : String) (id : EntityId) : id.text ≠ replyTopic token := by
  intro same
  refine capital_T (id.settled 'T' ?_)
  rw [same,replyTopic,String.toList_append]
  exact List.mem_append_right _ (by decide)

theorem replyTopic_ne_shared (token : String) {c : Channel} (member : c ∈ Channel.shared) :
    c.name ≠ replyTopic token := by
  intro same
  have last : c.name.toList.getLast? = some 'c' := by
    rw [same,replyTopic,String.toList_append,List.getLast?_append]
    rfl
  simp only [Channel.shared,List.mem_cons,List.not_mem_nil,or_false] at member
  rcases member with rfl | rfl | rfl
  · exact absurd last (by decide)
  · exact absurd last (by decide)
  · exact absurd last (by decide)

theorem replyTopic_injective : Function.Injective replyTopic := by
  intro s t same
  have lists := congrArg String.toList same
  rw [replyTopic,replyTopic,String.toList_append,String.toList_append] at lists
  exact String.toList_inj.mp (List.append_cancel_right lists)

end Engine

namespace Transport

theorem mem_insertTopic (name n : String) (ns : List String) :
    n ∈ insertTopic name ns ↔ n = name ∨ n ∈ ns := by
  induction ns with
  | nil => simp [insertTopic]
  | cons m ns ih =>
    simp only [insertTopic]
    split
    · simp
    split
    next same => simp [same]
    next => simp [ih,or_left_comm]

end Transport

end Vicinity
