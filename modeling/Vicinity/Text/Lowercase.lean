import Vicinity.Text.Blank
import Vicinity.Text.CaseTable

/-! Full lower-casing of a text. Each character has its own lower case, with two exceptions: a
dotted capital I becomes two characters, and a capital sigma is written in its final form where
it ends a word. Lower-casing a second time changes nothing, and no white space comes or goes. -/
namespace Vicinity.Text

open CaseTable

/-- The lower case of one character taken alone. -/
def lowerChar (c : Char) : Char :=
  match lowerRuns.find? (·.covers c.toNat) with
  | some r => Char.ofNat (r.lower + (c.toNat - r.first))
  | none => c

def isCased (c : Char) : Bool := within cased c

def isCaseIgnorable (c : Char) : Bool := within caseIgnorable c

/-- Whether the first character that counts for case is a letter with case. -/
def meetsLetter (cs : List Char) : Bool :=
  (cs.dropWhile isCaseIgnorable).head?.any isCased

/-- Lowers `cs` where `before` holds the characters already passed, nearest first. -/
def lowerAfter (before : List Char) : List Char → List Char
  | [] => []
  | c :: cs =>
    let rest := lowerAfter (c :: before) cs
    if c = 'Σ' then
      (if meetsLetter before && !meetsLetter cs then 'ς' else 'σ') :: rest
    else if c = 'İ' then 'i' :: '\u0307' :: rest
    else lowerChar c :: rest

def lower (cs : List Char) : List Char := lowerAfter [] cs

/-- A character is settled if it has no lower case of its own. -/
def Settled (c : Char) : Prop := ∀ r ∈ lowerRuns, r.covers c.toNat = false

instance (c : Char) : Decidable (Settled c) := inferInstanceAs (Decidable (∀ _ ∈ _, _))

/-- Lower cases of `r` are never covered by `s`. -/
def apart (r s : Run) : Bool :=
  Nat.blt (r.lower + (r.last - r.first)) s.first || Nat.blt s.last r.lower ||
    ((Nat.beq r.first r.last || Nat.beq r.step 2) && Nat.beq s.step 2 &&
      Nat.beq ((r.lower + s.first) % 2) 1)

theorem runs_apart : (lowerRuns.all fun r => lowerRuns.all (apart r)) = true := by
  decide +kernel

/-- Lower cases of `r` are characters and no white space. -/
def visible (r : Run) : Bool :=
  Nat.blt (r.lower + (r.last - r.first)) 0x110000 &&
    (Nat.blt (r.lower + (r.last - r.first)) 0xD800 || Nat.blt 0xDFFF r.lower) &&
    blanks.all fun (first, last) =>
      Nat.blt (r.lower + (r.last - r.first)) first || Nat.blt last r.lower

theorem runs_visible : lowerRuns.all visible = true := by decide +kernel

theorem covers_lower {r s : Run} {n : Nat} (h : apart r s = true) (hr : r.covers n = true) :
    s.covers (r.lower + (n - r.first)) = false := by
  simp only [Run.covers, Bool.and_eq_true, decide_eq_true_eq, beq_iff_eq] at hr
  simp only [apart, Bool.or_eq_true, Bool.and_eq_true, Nat.blt_eq, Nat.beq_eq] at h
  rw [Bool.eq_false_iff]
  intro hs
  simp only [Run.covers, Bool.and_eq_true, decide_eq_true_eq, beq_iff_eq] at hs
  obtain ⟨⟨h1, h2⟩, h3⟩ := hr
  obtain ⟨⟨h4, h5⟩, h6⟩ := hs
  rcases h with (h | h) | ⟨⟨h | h, hs⟩, h'⟩
  · omega
  · omega
  · rw [hs] at h6; omega
  · rw [hs] at h6; rw [h] at h3; omega

theorem toNat_lower {r : Run} (hr : r ∈ lowerRuns) {n : Nat} (h : r.covers n = true) :
    (Char.ofNat (r.lower + (n - r.first))).toNat = r.lower + (n - r.first) := by
  have hv := List.all_eq_true.mp runs_visible r hr
  simp only [visible, Bool.and_eq_true, Bool.or_eq_true, Nat.blt_eq] at hv
  simp only [Run.covers, Bool.and_eq_true, decide_eq_true_eq] at h
  have hvalid : (r.lower + (n - r.first)).isValidChar := by
    simp only [Nat.isValidChar]; omega
  rw [Char.ofNat, dif_pos hvalid]
  rfl

theorem settled_lowerChar (c : Char) : Settled (lowerChar c) := by
  unfold lowerChar
  split
  next r h =>
    intro s hs
    have hr := List.mem_of_find?_eq_some h
    have hc : r.covers c.toNat = true := by simpa using List.find?_some h
    rw [toNat_lower hr hc]
    exact covers_lower (List.all_eq_true.mp (List.all_eq_true.mp runs_apart r hr) s hs) hc
  next h => simpa [Settled] using h

theorem isBlank_lowerChar {c : Char} (h : isBlank c = false) : isBlank (lowerChar c) = false := by
  unfold lowerChar
  split
  next r hf =>
    have hr := List.mem_of_find?_eq_some hf
    have hc : r.covers c.toNat = true := by simpa using List.find?_some hf
    have hv := List.all_eq_true.mp runs_visible r hr
    simp only [visible, Bool.and_eq_true] at hv
    simp only [isBlank, within, toNat_lower hr hc, List.any_eq_false]
    intro p hp
    have := List.all_eq_true.mp hv.2 p hp
    simp only [Bool.or_eq_true, Nat.blt_eq] at this
    simp only [Run.covers, Bool.and_eq_true, decide_eq_true_eq] at hc
    simp only [Bool.and_eq_true, decide_eq_true_eq]
    omega
  next => exact h

theorem lowerChar_of_settled {c : Char} (h : Settled c) : lowerChar c = c := by
  unfold lowerChar
  split
  next r hf =>
    have := h r (List.mem_of_find?_eq_some hf)
    have hc : r.covers c.toNat = true := by simpa using List.find?_some hf
    simp [this] at hc
  next => rfl

theorem not_settled_sigma : ¬ Settled 'Σ' := by decide +kernel

theorem not_settled_dotted : ¬ Settled 'İ' := by decide +kernel

theorem settled_lowerAfter (before cs : List Char) : ∀ c ∈ lowerAfter before cs, Settled c := by
  induction cs generalizing before with
  | nil => simp [lowerAfter]
  | cons a cs ih =>
    intro c hc
    simp only [lowerAfter] at hc
    split at hc
    · rcases List.mem_cons.mp hc with rfl | hc
      · split <;> decide +kernel
      · exact ih _ c hc
    · split at hc
      · simp only [List.mem_cons] at hc
        rcases hc with rfl | rfl | hc
        · decide +kernel
        · decide +kernel
        · exact ih _ c hc
      · rcases List.mem_cons.mp hc with rfl | hc
        · exact settled_lowerChar a
        · exact ih _ c hc

theorem lowerAfter_of_settled (before : List Char) {cs : List Char} (h : ∀ c ∈ cs, Settled c) :
    lowerAfter before cs = cs := by
  induction cs generalizing before with
  | nil => rfl
  | cons a cs ih =>
    have ha : Settled a := h a (by simp)
    have hs : a ≠ 'Σ' := fun e => not_settled_sigma (e ▸ ha)
    have hd : a ≠ 'İ' := fun e => not_settled_dotted (e ▸ ha)
    simp only [lowerAfter, if_neg hs, if_neg hd, lowerChar_of_settled ha]
    rw [ih _ fun c hc => h c (by simp [hc])]

theorem lower_lower (cs : List Char) : lower (lower cs) = lower cs :=
  lowerAfter_of_settled [] (settled_lowerAfter [] cs)

theorem head_lowerAfter (before : List Char) {cs : List Char} (h : cs.head?.all (!isBlank ·)) :
    (lowerAfter before cs).head?.all (!isBlank ·) := by
  cases cs with
  | nil => rfl
  | cons a cs =>
    have ha : isBlank a = false := by simpa using h
    simp only [lowerAfter]
    split
    · split <;> rfl
    · split
      · rfl
      · simp [isBlank_lowerChar ha]

theorem lowerAfter_ne_nil (before : List Char) (a : Char) (cs : List Char) :
    lowerAfter before (a :: cs) ≠ [] := by
  simp only [lowerAfter]
  split
  · simp
  · split <;> simp

theorem getLast_lowerAfter (before : List Char) {cs : List Char}
    (h : cs.getLast?.all (!isBlank ·)) : (lowerAfter before cs).getLast?.all (!isBlank ·) := by
  induction cs generalizing before with
  | nil => rfl
  | cons a cs ih =>
    cases cs with
    | nil =>
      have ha : isBlank a = false := by simpa using h
      simp only [lowerAfter]
      split
      · split <;> decide
      · split
        · decide
        · simp [isBlank_lowerChar ha]
    | cons b cs =>
      have := ih (a :: before) (by simpa using h)
      obtain ⟨x, xs, hx⟩ := List.exists_cons_of_ne_nil (lowerAfter_ne_nil (a :: before) b cs)
      rw [lowerAfter]
      simp only [hx] at this ⊢
      split
      · simpa using this
      · split <;> simpa using this

theorem trimmed_lower {cs : List Char} (h : Trimmed cs) : Trimmed (lower cs) :=
  ⟨head_lowerAfter [] h.1, getLast_lowerAfter [] h.2⟩

end Vicinity.Text
