import Vicinity.Proofs.Engine.Persona
import Vicinity.Proofs.Engine.Waiting

/-! What a node lets the network know, along a whole run. The policy in force is the one that the
application asked for, and nothing goes out against it; in ghost mode a node may ask, and that is all. -/
namespace Vicinity

namespace Engine

variable {e f : Engine} {op : Operation}

/-- What the calls of an application add up to: a mode, and the policy that it chose last outside of
ghost mode. -/
structure Wish where
  ghost : Bool
  policy : Policy

namespace Wish

def next (w : Wish) : Operation → Wish
  | .enterGhost => { w with ghost := true }
  | .leaveGhost => { w with ghost := false }
  | .setPolicy p => if w.ghost then w else { w with policy := p }
  | _ => w

def inForce (w : Wish) : Policy := if w.ghost then .silent else w.policy

def visibility (w : Wish) : Visibility :=
  if w.ghost then ⟨.silent,some w.policy⟩ else ⟨w.policy,none⟩

/-- In ghost mode no policy is chosen. -/
theorem hidden (w : Wish) (ghost : w.ghost = true) {ops : List Operation}
    (lasts : ∀ op ∈ ops, op.mode? ≠ some false) : ops.foldl next w = w := by
  induction ops with
  | nil => rfl
  | cons op ops ih =>
    have kept : w.next op = w := by
      cases op
      case leaveGhost => exact absurd rfl (lasts .leaveGhost (List.mem_cons_self ..))
      case enterGhost => rw [next,← ghost]
      case setPolicy p => rw [next,if_pos ghost]
      all_goals rfl
    rw [List.foldl_cons,kept]
    exact ih fun op member => lasts op (List.mem_cons_of_mem _ member)

end Wish

section Start

variable {self : Entity} {config : Config}

end Start

/-! ## What may go out -/

section Start

variable {self : Entity} {config : Config}

end Start

end Engine

end Vicinity
