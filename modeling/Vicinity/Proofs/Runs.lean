import Mathlib.Data.List.Perm.Basic

/-! Runs of a machine that takes one operation after another, and what is collected along them. What
each operation keeps in balance, a whole run does. -/
namespace Vicinity

variable {σ ο α : Type} {step : σ → ο → σ}

/-- What concerns the operations of a run, each in the state in which it comes, in order. -/
def along (step : σ → ο → σ) (concern : σ → ο → List α) (s : σ) : List ο → List α
  | [] => []
  | op :: ops => concern s op ++ along step concern (step s op) ops

/-- The last operation of a run adds what concerns it in the state to which the others lead. -/
theorem along_concat (concern : σ → ο → List α) (s : σ) (ops : List ο) (op : ο) :
    along step concern s (ops ++ [op]) =
      along step concern s ops ++ concern (ops.foldl step s) op := by
  induction ops generalizing s with
  | nil => exact List.append_nil _
  | cons first ops ih => exact (congrArg _ (ih _)).trans (List.append_assoc ..).symm

/-- What is collected from the operations alone, in whatever state they come. -/
theorem along_flatMap (part : ο → List α) (s : σ) (ops : List ο) :
    along step (fun _ => part) s ops = ops.flatMap part := by
  induction ops generalizing s with
  | nil => rfl
  | cons op ops ih => exact congrArg (part op ++ ·) (ih _)

theorem along_sublist {some all : σ → ο → List α} (within : ∀ s op, (some s op).Sublist (all s op))
    (s : σ) (ops : List ο) : (along step some s ops).Sublist (along step all s ops) := by
  induction ops generalizing s with
  | nil => exact .refl _
  | cons op ops ih => exact (within s op).append (ih _)

/-- Two kinds of things that make up all of them with every operation do so over a run. -/
theorem along_split {some rest all : σ → ο → List α}
    (split : ∀ s op, (some s op ++ rest s op).Perm (all s op)) (s : σ) (ops : List ο) :
    (along step some s ops ++ along step rest s ops).Perm (along step all s ops) := by
  induction ops generalizing s with
  | nil => exact .refl _
  | cons op ops ih =>
    refine .trans ?_ ((split s op).append (ih (step s op)))
    -- the rest of the first operation moves before what the others have
    rw [along,along,List.append_assoc,List.append_assoc]
    refine .append_left _ ?_
    rw [← List.append_assoc,← List.append_assoc]
    exact List.perm_append_comm.append_right _

/-- A queue: what comes out stands before what stays, and what goes in comes after it. -/
theorem along_queue {holds : σ → List α} {enters leaves : σ → ο → List α}
    (moves : ∀ s op, leaves s op ++ holds (step s op) = holds s ++ enters s op)
    (s : σ) (ops : List ο) :
    along step leaves s ops ++ holds (ops.foldl step s) = holds s ++ along step enters s ops := by
  induction ops generalizing s with
  | nil => exact (List.append_nil _).symm
  | cons op ops ih =>
    rw [along,along,List.foldl_cons,List.append_assoc,ih,← List.append_assoc,moves,
      List.append_assoc]

/-- A store: what stays and what goes out is what was there and what comes in. -/
theorem along_store {holds : σ → List α} {enters leaves : σ → ο → List α}
    (moves : ∀ s op, (leaves s op ++ holds (step s op)).Perm (holds s ++ enters s op))
    (s : σ) (ops : List ο) :
    (along step leaves s ops ++ holds (ops.foldl step s)).Perm
      (holds s ++ along step enters s ops) := by
  induction ops generalizing s with
  | nil => exact .of_eq (List.append_nil _).symm
  | cons op ops ih =>
    rw [along,along,List.foldl_cons,List.append_assoc]
    refine ((ih (step s op)).append_left _).trans ?_
    rw [← List.append_assoc,← List.append_assoc]
    exact (moves s op).append_right _

/-- Two machines that answer alike and stay related with every operation do so over a run. -/
theorem along_simulation {σ' : Type} {step' : σ' → ο → σ'} {R : σ → σ' → Prop}
    {answer : σ → ο → List α} {answer' : σ' → ο → List α}
    (moves : ∀ s t op, R s t → answer s op = answer' t op ∧ R (step s op) (step' t op))
    {s : σ} {t : σ'} (related : R s t) (ops : List ο) :
    along step answer s ops = along step' answer' t ops ∧
      R (ops.foldl step s) (ops.foldl step' t) := by
  induction ops generalizing s t with
  | nil => exact ⟨rfl,related⟩
  | cons op ops ih =>
    obtain ⟨same,next⟩ := moves s t op related
    obtain ⟨rest,last⟩ := ih next
    refine ⟨?_,last⟩
    rw [along,along,same,rest]

end Vicinity
