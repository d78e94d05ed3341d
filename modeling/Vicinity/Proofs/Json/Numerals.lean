import Mathlib.Data.Nat.Digits.Defs
import Mathlib.Tactic.IntervalCases
import Vicinity.Json.Printer
import Vicinity.Json.Token

/-! The text of a number is one numeral. The reader passes it, whatever the number, and a numeral ends
where something follows that is no part of it. An integer in range is read as it was written; a double
may be read as another one, or as none if its digits lie beyond the largest. -/
namespace Vicinity

namespace Decimal

theorem le_ofDigits (v : Nat) (ds : List Nat) : v ≤ ds.foldl (fun v d => v * 10 + d) v := by
  induction ds generalizing v with
  | nil => exact Nat.le_refl v
  | cons d ds ih => exact Nat.le_trans (by omega) (ih (v * 10 + d))

/-- Digits of a number that fits a word are all taken. -/
theorem takeDigits_eq {v : Nat} {ds : List Nat}
    (fits : ds.foldl (fun v d => v * 10 + d) v < word) :
    takeDigits v ds = (ds.foldl (fun v d => v * 10 + d) v,ds.length) := by
  induction ds generalizing v with
  | nil => rfl
  | cons d ds ih =>
    have first : v * 10 + d < word := Nat.lt_of_le_of_lt (le_ofDigits _ ds) fits
    rw [takeDigits,if_pos first,ih fits]
    rfl

theorem takeDigits_digits {n : Nat} (fits : n < word) :
    takeDigits 0 (Nat.digits 10 n).reverse = (n,(Nat.digits 10 n).reverse.length) := by
  have value : (Nat.digits 10 n).reverse.foldl (fun v d => v * 10 + d) 0 = n := by
    rw [List.foldl_reverse]
    conv_rhs => rw [← Nat.ofDigits_digits 10 n,Nat.ofDigits_eq_foldr]
    simp only [Nat.cast_id,Nat.add_comm,Nat.mul_comm]
  rw [takeDigits_eq (by rwa [value]),value]

/-! ## The digits of a double -/

/-- A character that is a digit. -/
def Figure (c : Char) : Prop := ∃ v, digit? c = some v

/-- Digits as they are written: the first one is zero for zero only, which stands at no other place. -/
structure Digits.Proper (d : Digits) : Prop where
  figures : ∀ c ∈ d.digits, Figure c
  leading : (∃ c cs v, d.digits = c :: cs ∧ digit? c = some (v + 1)) ∨ d = ⟨['0'],0⟩

theorem Digits.Proper.digits_ne {d : Digits} (proper : d.Proper) : d.digits ≠ [] := by
  rcases proper.leading with ⟨c,cs,v,same,_⟩ | rfl
  · exact same ▸ List.cons_ne_nil c cs
  · exact List.cons_ne_nil '0' []

theorem figure_zero : Figure '0' := ⟨0,rfl⟩

theorem digit?_digitChar {d : Nat} (digit : d < 10) : digit? (Nat.digitChar d) = some d := by
  interval_cases d <;> rfl

theorem figure_toDigits {n : Nat} {c : Char} (member : c ∈ Nat.toDigits 10 n) : Figure c := by
  have digit := Nat.isDigit_of_mem_toDigits (by decide) (by decide) member
  simp only [Char.isDigit,Bool.and_eq_true,decide_eq_true_eq] at digit
  exact ⟨c.toNat - 48,if_pos digit⟩

/-- The first digit of a positive number is positive. -/
theorem leading_toDigits {n : Nat} (positive : 0 < n) :
    ∃ c cs v, Nat.toDigits 10 n = c :: cs ∧ digit? c = some (v + 1) := by
  induction n using Nat.strong_induction_on with
  | _ n ih =>
    rw [Nat.toDigits_eq_if (by decide)]
    split
    next small =>
      obtain ⟨v,rfl⟩ := Nat.exists_eq_succ_of_ne_zero (Nat.pos_iff_ne_zero.mp positive)
      exact ⟨_,[],v,rfl,digit?_digitChar small⟩
    next large =>
      obtain ⟨c,cs,v,same,digit⟩ := ih (n / 10) (by omega) (by omega)
      exact ⟨c,cs ++ _,v,by rw [same,List.cons_append],digit⟩

theorem stripZeros_pos {c : Nat} (positive : 0 < c) (fuel : Nat) : 0 < stripZeros c fuel := by
  induction fuel generalizing c with
  | zero => exact positive
  | succ fuel ih =>
    rw [stripZeros]
    split
    · exact ih (by omega)
    · exact positive

theorem power_pos {base : Nat} (positive : 0 < base) (e : Int) :
    0 < (power base e).1 ∧ 0 < (power base e).2 := by
  cases e with
  | ofNat e => exact ⟨Nat.pow_pos positive,Nat.one_pos⟩
  | negSucc e => exact ⟨Nat.one_pos,Nat.pow_pos positive⟩

namespace Binary

variable {b : Binary}

/-- Zero lies below whatever has a positive lower bound. -/
theorem zero_outside {lowest highest unit : Nat} (positive : 0 < lowest) (closed : Prop)
    [Decidable closed] :
    (if closed then decide (lowest ≤ 0 * unit) && decide (0 * unit ≤ highest)
      else decide (lowest < 0 * unit) && decide (0 * unit < highest)) = false := by
  have above : ¬lowest ≤ 0 * unit := by omega
  have apart : ¬lowest < 0 * unit := by omega
  split <;> simp only [above,apart,decide_false,Bool.false_and]

/-- Zero is on every grid, and rounds to no positive double. -/
theorem onGrid?_pos (positive : 0 < b.m) (near : b.below ≤ 2) {k : Int} {c : Nat}
    (found : b.onGrid? k = some c) : 0 < c := by
  have quarter : 0 < (power 2 (b.q - 2)).1 * (power 10 k).2 :=
    Nat.mul_pos (power_pos (by decide) _).1 (power_pos (by decide) _).2
  have lowest : 0 < (4 * b.m - b.below) * ((power 2 (b.q - 2)).1 * (power 10 k).2) :=
    Nat.mul_pos (by omega) quarter
  refine Nat.pos_of_ne_zero ?_
  rintro rfl
  simp only [onGrid?] at found
  split at found
  · cases found
  · next inside _ =>
    rw [Option.some.inj found,zero_outside lowest] at inside
    cases inside
  · cases Option.some.inj found
  · next inside _ =>
    split at found
    · rw [Option.some.inj found,zero_outside lowest] at inside
      cases inside
    · cases Option.some.inj found

theorem ofBits_pos {bits : Nat} (positive : 0 < bits) (magnitude : bits < 0x8000000000000000) :
    0 < (ofBits bits).m ∧ (ofBits bits).below ≤ 2 := by
  simp only [ofBits]
  split
  · exact ⟨by dsimp only; omega,Nat.le_refl 2⟩
  · refine ⟨by dsimp only; omega,?_⟩
    dsimp only
    split <;> decide

theorem shortest_proper (positive : 0 < b.m) (near : b.below ≤ 2) : b.shortest.Proper := by
  refine ⟨fun c member => figure_toDigits member,?_⟩
  simp only [shortest]
  cases found : (List.range 17).findSome? fun n : Nat =>
      (b.onGrid? (leadingPlace (b.m * (power 2 b.q).1) (power 2 b.q).2 - n)).map fun c =>
        (c,leadingPlace (b.m * (power 2 b.q).1) (power 2 b.q).2 - n) with
  | none => exact .inr rfl
  | some p =>
    obtain ⟨n,_,near'⟩ := List.exists_of_findSome?_eq_some found
    obtain ⟨c,onGrid,rfl⟩ := Option.map_eq_some_iff.mp near'
    exact .inl (leading_toDigits (stripZeros_pos (onGrid?_pos positive near onGrid) 18))

end Binary

end Decimal

namespace Json.Token

open Decimal (digit? Figure Layout Digits)

/-- The tokens of a text from a place inside it on. -/
def read (l : Lexer) (cs : List Char) : List Token := ((cs.map some).foldl Lexer.feed l).finish

theorem read_cons (l : Lexer) (c : Char) (cs : List Char) :
    read l (c :: cs) = read (l.feed (some c)) cs := rfl

/-- Nothing follows, or something that is no part of a numeral. -/
def Ends (rest : List Char) : Prop := ∀ c ∈ rest.head?, c = ',' ∨ c = ']' ∨ c = '}'

theorem ends_nil : Ends [] := nofun

variable {ts : List Token} {rest : List Char} {n : Nat} {p q r : Phase}

/-! ## Phases -/

/-- A text leads a numeral from one phase to another. -/
def Passes (p : Phase) (cs : List Char) (q : Phase) : Prop :=
  ∀ d : Draft, d.phase = p → ∃ d', cs.foldlM Draft.feed d = some d' ∧ d'.phase = q

theorem Passes.append {cs cs' : List Char} (first : Passes p cs q) (second : Passes q cs' r) :
    Passes p (cs ++ cs') r := by
  intro d phase
  obtain ⟨d',fed,phase⟩ := first d phase
  obtain ⟨d'',fed',phase⟩ := second d' phase
  exact ⟨d'',by rw [List.foldlM_append,fed]; exact fed',phase⟩

theorem passes_nil : Passes p [] p := fun d phase => ⟨d,rfl,phase⟩

theorem passes_one {c : Char} (step : ∀ d : Draft, d.phase = p → ∃ d', d.feed c = some d' ∧
    d'.phase = q) : Passes p [c] q := by
  intro d phase
  obtain ⟨d',fed,phase⟩ := step d phase
  exact ⟨d',by simp [fed],phase⟩

theorem passes_zero : Passes .sign ['0'] .zero :=
  passes_one fun d phase => ⟨_,by simp only [Draft.feed,phase]; rfl,rfl⟩

theorem passes_leading {c : Char} {v : Nat} (digit : digit? c = some (v + 1)) :
    Passes .sign [c] .whole :=
  passes_one fun d phase =>
    ⟨d.pushWhole .whole (v + 1),by simp only [Draft.feed,phase,digit],rfl⟩

/-- Where a digit continues the digits before it. -/
theorem passes_figure {c : Char} (figure : Figure c)
    (steady : p = .whole ∨ p = .fraction ∨ p = .exponent) : Passes p [c] p := by
  obtain ⟨v,digit⟩ := figure
  refine passes_one fun d phase => ?_
  rcases steady with rfl | rfl | rfl
  · exact ⟨d.pushWhole .whole v,by simp only [Draft.feed,phase,digit],rfl⟩
  · exact ⟨d.pushFraction v,by simp only [Draft.feed,phase,digit],rfl⟩
  · exact ⟨d.pushExponent v,by simp only [Draft.feed,phase,digit],rfl⟩

theorem passes_figures {cs : List Char} (figures : ∀ c ∈ cs, Figure c)
    (steady : p = .whole ∨ p = .fraction ∨ p = .exponent) : Passes p cs p := by
  induction cs with
  | nil => exact passes_nil
  | cons c cs ih =>
    obtain ⟨first,rest⟩ := List.forall_mem_cons.mp figures
    exact (passes_figure first steady).append (ih rest)

theorem passes_fraction {c : Char} {cs : List Char} (figures : ∀ d ∈ c :: cs, Figure d) :
    Passes .point (c :: cs) .fraction := by
  obtain ⟨⟨v,digit⟩,rest⟩ := List.forall_mem_cons.mp figures
  have first : Passes .point [c] .fraction :=
    passes_one fun d phase => ⟨d.pushFraction v,by simp only [Draft.feed,phase,digit],rfl⟩
  exact first.append (passes_figures rest (by simp))

theorem passes_point (whole : p = .zero ∨ p = .whole) : Passes p ['.'] .point := by
  refine passes_one fun d phase => ?_
  rcases whole with rfl | rfl <;>
    exact ⟨_,by simp only [Draft.feed,phase]; rfl,rfl⟩

/-- An exponent may follow the whole part and the fraction. -/
theorem passes_exponent (place : Int) (before : p = .zero ∨ p = .whole ∨ p = .fraction) :
    Passes p ('e' :: (if place < 0 then '-' else '+') :: Nat.toDigits 10 place.natAbs) .exponent := by
  have mark : Passes p ['e'] .mark := by
    refine passes_one fun d phase => ?_
    rcases before with rfl | rfl | rfl <;> exact ⟨_,by simp only [Draft.feed,phase]; rfl,rfl⟩
  have sign : Passes .mark [if place < 0 then '-' else '+'] .markSign := by
    refine passes_one fun d phase => ?_
    split <;> exact ⟨_,by simp only [Draft.feed,phase]; rfl,rfl⟩
  have digits : Passes .markSign (Nat.toDigits 10 place.natAbs) .exponent := by
    have figures : ∀ c ∈ Nat.toDigits 10 place.natAbs, Figure c := fun _ => Decimal.figure_toDigits
    cases written : Nat.toDigits 10 place.natAbs with
    | nil => exact absurd written Nat.toDigits_ne_nil
    | cons c cs =>
      rw [written] at figures
      obtain ⟨⟨v,digit⟩,rest⟩ := List.forall_mem_cons.mp figures
      have first : Passes .markSign [c] .exponent :=
        passes_one fun d phase => ⟨d.pushExponent v,by simp only [Draft.feed,phase,digit],rfl⟩
      exact first.append (passes_figures rest (by simp))
  exact mark.append (sign.append digits)

/-! ## Doubles -/

theorem passes_fraction_of_ne {cs : List Char} (some : cs ≠ []) (figures : ∀ c ∈ cs, Figure c) :
    Passes .point cs .fraction := by
  cases cs with
  | nil => exact absurd rfl some
  | cons c cs => exact passes_fraction figures

theorem figures_append {cs cs' : List Char} (first : ∀ c ∈ cs, Figure c) (second : ∀ c ∈ cs', Figure c) :
    ∀ c ∈ cs ++ cs', Figure c := by
  intro c member
  rcases List.mem_append.mp member with member | member
  · exact first c member
  · exact second c member

theorem figures_zeros (n : Nat) : ∀ c ∈ List.replicate n '0', Figure c :=
  fun _ member => List.eq_of_mem_replicate member ▸ Decimal.figure_zero

/-- The digits in front of the point. -/
theorem passes_whole {d : Digits} (proper : d.Proper) {n : Nat} (place : d.place = n)
    (zeros : Nat) : ∃ q, (q = .zero ∨ q = .whole) ∧
      Passes .sign ((d.digits ++ List.replicate zeros '0').take (n + 1)) q := by
  rcases proper.leading with ⟨c,cs,v,same,digit⟩ | rfl
  · have figures : ∀ d ∈ cs ++ List.replicate zeros '0', Figure d :=
      figures_append (fun c member => proper.figures c (same ▸ List.mem_cons_of_mem _ member))
        (figures_zeros zeros)
    rw [same]
    exact ⟨.whole,.inr rfl,(passes_leading digit).append
      (passes_figures (fun c member => figures c (List.mem_of_mem_take member)) (.inl rfl))⟩
  · obtain rfl : 0 = n := Int.ofNat_inj.mp place
    exact ⟨.zero,.inl rfl,passes_zero⟩

theorem passes_positional {d : Digits} (proper : d.Proper) :
    Passes .sign (Layout.positional d.digits d.place) .fraction := by
  cases place : d.place with
  | negSucc n =>
    have fraction : Passes .point (List.replicate n '0' ++ d.digits) .fraction :=
      passes_fraction_of_ne (List.append_ne_nil_of_right_ne_nil _ proper.digits_ne)
        (figures_append (figures_zeros n) proper.figures)
    exact passes_zero.append ((passes_point (.inl rfl)).append fraction)
  | ofNat n =>
    obtain ⟨q,isWhole,whole⟩ := passes_whole proper place (n + 1 - d.digits.length)
    have figures := figures_append proper.figures (figures_zeros (n + 1 - d.digits.length))
    let after := (d.digits ++ List.replicate (n + 1 - d.digits.length) '0').drop (n + 1)
    have fraction : Passes .point (if after.isEmpty then ['0'] else after) .fraction := by
      split
      · exact passes_fraction (List.forall_mem_singleton.mpr Decimal.figure_zero)
      next some =>
        exact passes_fraction_of_ne (by simpa using some)
          fun c member => figures c (List.mem_of_mem_drop member)
    exact whole.append ((passes_point isWhole).append fraction)

theorem passes_scientific {d : Digits} (proper : d.Proper) :
    Passes .sign (Layout.scientific d.digits d.place) .exponent := by
  -- a zero may stand before the point, but only by itself
  have first : ∀ c, Figure c → ∃ q, (q = .zero ∨ q = .whole) ∧ Passes .sign [c] q := by
    rintro c ⟨v,digit⟩
    cases v with
    | zero => exact ⟨.zero,.inl rfl,passes_one fun d phase =>
        ⟨d.pushWhole .zero 0,by simp only [Draft.feed,phase,digit],rfl⟩⟩
    | succ v => exact ⟨.whole,.inr rfl,passes_leading digit⟩
  have figures := proper.figures
  have some := proper.digits_ne
  match written : d.digits with
  | [] => exact absurd written some
  | [c] =>
    rw [written] at figures
    obtain ⟨q,isWhole,whole⟩ := first c (figures c (List.mem_singleton.mpr rfl))
    exact whole.append (passes_exponent d.place (isWhole.imp_right .inl))
  | c :: c' :: cs =>
    rw [written] at figures
    obtain ⟨leading,rest⟩ := List.forall_mem_cons.mp figures
    obtain ⟨q,isWhole,whole⟩ := first c leading
    exact whole.append ((passes_point isWhole).append
      ((passes_fraction rest).append (passes_exponent d.place (.inr (.inr rfl)))))

/-! ## Drafts -/

/-- What is fed to a numeral goes to its draft as long as it belongs to it. -/
theorem read_feeds {cs : List Char} {d d' : Draft} (fed : cs.foldlM Draft.feed d = some d')
    (rest : List Char) : read ⟨.numeral d,ts⟩ (cs ++ rest) = read ⟨.numeral d',ts⟩ rest := by
  induction cs generalizing d with
  | nil =>
    obtain rfl := Option.some.inj fed
    rfl
  | cons c cs ih =>
    rw [List.foldlM_cons] at fed
    obtain ⟨next,step,fed⟩ := Option.bind_eq_some_iff.mp fed
    rw [List.cons_append,read_cons,← ih fed]
    simp only [Lexer.feed,Lexer.inNumeral,Option.bind_some,step]
    rfl

/-- What begins a numeral is nothing else in front of a value. -/
theorem feed_start {c : Char} {d : Draft} (begins : (Draft.start false).feed c = some d) :
    Lexer.feed ⟨.start,ts⟩ (some c) = ⟨.numeral d,ts⟩ := by
  simp only [Lexer.feed,Lexer.atStart]
  split
  case h_16 => rw [begins]; rfl
  all_goals cases begins

/-- A numeral with a fraction or an exponent is read from its first character on, with a sign in
front of it or none. -/
theorem exists_draft {cs : List Char} (passes : Passes .sign cs q)
    (last : q = .fraction ∨ q = .exponent) (negative : Prop) [Decidable negative] :
    ∃ d : Draft, d.complete = true ∧ ∀ (ts : List Token) (rest : List Char),
      read ⟨.start,ts⟩ ((if negative then '-' :: cs else cs) ++ rest) =
        read ⟨.numeral d,ts⟩ rest := by
  obtain ⟨d,fed,phase⟩ := passes (.start (decide negative)) rfl
  refine ⟨d,by rcases last with rfl | rfl <;> simp [Draft.complete,phase],fun ts rest => ?_⟩
  by_cases sign : negative
  · rw [if_pos sign,← read_feeds fed rest,decide_eq_true sign]
    rfl
  · rw [if_neg sign]
    rw [decide_eq_false sign] at fed
    cases cs with
    | nil =>
      obtain rfl := Option.some.inj fed
      rcases last with rfl | rfl <;> cases phase
    | cons c cs =>
      rw [List.foldlM_cons] at fed
      obtain ⟨next,step,fed⟩ := Option.bind_eq_some_iff.mp fed
      rw [← read_feeds fed rest,← feed_start step]
      rfl

/-- The text of a positive double. -/
theorem passes_magnitude (l : Layout) {bits : Nat} (positive : 0 < bits)
    (magnitude : bits < 0x8000000000000000) : ∃ q, (q = .fraction ∨ q = .exponent) ∧
      Passes .sign (let d := (Decimal.Binary.ofBits bits).shortest
        if l.lowest ≤ d.place ∧ d.place ≤ l.highest then Layout.positional d.digits d.place
        else Layout.scientific d.digits d.place) q := by
  obtain ⟨some,near⟩ := Decimal.Binary.ofBits_pos positive magnitude
  have proper := Decimal.Binary.shortest_proper some near
  dsimp only
  split
  · exact ⟨.fraction,.inl rfl,passes_positional proper⟩
  · exact ⟨.exponent,.inr rfl,passes_scientific proper⟩

/-- The text of a double is one numeral. -/
theorem exists_draft_double (l : Layout) (x : Float) :
    ∃ d : Draft, d.complete = true ∧ ∀ (ts : List Token) (rest : List Char),
      read ⟨.start,ts⟩ (l.write x ++ rest) = read ⟨.numeral d,ts⟩ rest := by
  have magnitude : x.toBits.toNat % 0x8000000000000000 < 0x8000000000000000 :=
    Nat.mod_lt _ (by decide)
  rw [Layout.write]
  dsimp only
  by_cases zero : x.toBits.toNat % 0x8000000000000000 = 0
  · rw [if_pos zero]
    have passes : Passes .sign ['0','.','0'] .fraction := passes_zero.append
      ((passes_point (.inl rfl)).append
        (passes_fraction (List.forall_mem_singleton.mpr Decimal.figure_zero)))
    exact exists_draft passes (.inl rfl) _
  · rw [if_neg zero]
    obtain ⟨q,last,passes⟩ := passes_magnitude l (Nat.pos_of_ne_zero zero) magnitude
    exact exists_draft passes last _

/-- A numeral ends before what is no part of it. -/
theorem read_complete {d : Draft} (complete : d.complete = true) (ends : Ends rest) :
    read ⟨.numeral d,ts⟩ rest = read ⟨.start,.num d.number :: ts⟩ rest := by
  cases rest with
  | nil => simp only [read,List.map_nil,List.foldl_nil,Lexer.finish,complete,if_true]; rfl
  | cons c rest =>
    have stop : d.feed c = none := by
      rw [Draft.complete] at complete
      split at complete
      case h_5 => cases complete
      all_goals
        next phase =>
          rcases ends c rfl with rfl | rfl | rfl <;>
            simp [Draft.feed,phase,digit?,Draft.punctuate]
    rw [read_cons,read_cons]
    simp only [Lexer.feed,Lexer.inNumeral,Option.bind_some,stop,complete]
    rfl

/-! ## Integers -/

/-- The draft of a numeral whose whole part has been read. -/
def whole (negative : Bool) (n : Nat) : Draft :=
  ⟨if n = 0 then .zero else .whole,negative,if n = 0 then [0] else Nat.digits 10 n,[],false,[]⟩

theorem phase_whole (negative : Bool) (n : Nat) :
    (whole negative n).phase = .zero ∨ (whole negative n).phase = .whole := by
  by_cases zero : n = 0 <;> simp [whole,zero]

theorem complete_whole (negative : Bool) (n : Nat) : (whole negative n).complete = true := by
  rcases phase_whole negative n with phase | phase <;> simp [Draft.complete,phase]

theorem feed_digit {negative : Bool} {ds : List Nat} {d : Nat} (digit : d < 10) :
    Lexer.feed ⟨.numeral ⟨.whole,negative,ds,[],false,[]⟩,ts⟩ (some (Nat.digitChar d)) =
      ⟨.numeral ⟨.whole,negative,d :: ds,[],false,[]⟩,ts⟩ := by
  simp only [Lexer.feed,Lexer.inNumeral,Option.bind_some,Draft.feed,Decimal.digit?_digitChar digit]
  rfl

/-- The digits of a number are read once its first digit is read as one. -/
theorem read_digits {l : Lexer} {negative : Bool}
    (first : ∀ d, 0 < d → d < 10 → l.feed (some (Nat.digitChar d)) =
      ⟨.numeral ⟨.whole,negative,[d],[],false,[]⟩,ts⟩)
    (positive : 0 < n) (rest : List Char) : read l (Nat.toDigits 10 n ++ rest) =
      read ⟨.numeral ⟨.whole,negative,Nat.digits 10 n,[],false,[]⟩,ts⟩ rest := by
  induction n using Nat.strong_induction_on generalizing rest with
  | _ n ih =>
    rw [Nat.toDigits_eq_if (by decide)]
    split
    next small =>
      rw [List.singleton_append,read_cons,first n positive small,
        Nat.digits_of_lt 10 n (Nat.pos_iff_ne_zero.mp positive) small]
    next large =>
      have before := ih (n / 10) (by omega) (by omega) (Nat.digitChar (n % 10) :: rest)
      rw [List.append_assoc,List.singleton_append,before,read_cons,
        feed_digit (Nat.mod_lt n (by decide)),Nat.digits_def' (by decide) positive]

theorem number_whole {negative : Bool} (fits : n < Decimal.word) : (whole negative n).number =
    if !negative then some (.int n)
    else if n ≠ 0 ∧ n ≤ 0x8000000000000000 then some (.int (-n))
    else some (.float (-Decimal.doubleOfWord n)) := by
  have taken : Decimal.takeDigits 0 (whole negative n).whole.reverse =
      (n,(whole negative n).whole.reverse.length) := by
    by_cases zero : n = 0
    · subst zero
      rfl
    · simp only [whole,if_neg zero]
      exact Decimal.takeDigits_digits fits
  rw [Draft.number,Number.ofNumeral]
  simp only [taken,phase_whole negative n,decide_true,beq_self_eq_true,Bool.and_self,if_true]
  rfl

theorem read_natural (rest : List Char) : read ⟨.start,ts⟩ (Nat.toDigits 10 n ++ rest) =
    read ⟨.numeral (whole false n),ts⟩ rest := by
  rcases Nat.eq_zero_or_pos n with rfl | positive
  · rfl
  · rw [read_digits _ positive,whole,if_neg (by omega),if_neg (by omega)]
    intro d _ digit
    interval_cases d <;> rfl

theorem read_negative (positive : 0 < n) (rest : List Char) :
    read ⟨.start,ts⟩ ('-' :: (Nat.toDigits 10 n ++ rest)) =
      read ⟨.numeral (whole true n),ts⟩ rest := by
  have sign : read ⟨.start,ts⟩ ('-' :: (Nat.toDigits 10 n ++ rest)) =
      read ⟨.numeral (.start true),ts⟩ (Nat.toDigits 10 n ++ rest) := rfl
  rw [sign,read_digits _ positive,whole,if_neg (by omega),if_neg (by omega)]
  intro d _ digit
  interval_cases d <;> rfl

/-- An integer in range is read as it was written. -/
theorem read_number {i : Int} (fits : Number.inRange i = true) (ends : Ends rest) :
    read ⟨.start,ts⟩ ((Number.int i).write ++ rest) =
      read ⟨.start,.num (some (.int i)) :: ts⟩ rest := by
  simp only [Number.inRange,Bool.and_eq_true,decide_eq_true_eq] at fits
  cases i with
  | ofNat n =>
    have bound : n < Decimal.word := Int.ofNat_lt.mp fits.2
    rw [Number.write,read_natural,read_complete (complete_whole ..) ends,number_whole bound]
    rfl
  | negSucc n =>
    have bound : n + 1 ≤ 0x8000000000000000 := by omega
    have small : n + 1 < Decimal.word := Nat.lt_of_le_of_lt bound (by decide)
    rw [Number.write,List.cons_append,read_negative (Nat.succ_pos n),
      read_complete (complete_whole ..) ends,number_whole small]
    simp only [Bool.not_true,Bool.false_eq_true,if_false,ne_eq,Nat.succ_ne_zero,not_false_eq_true,
      bound,and_self,if_true]
    rfl

/-! ## All numbers -/

/-- The text of a number is one numeral. -/
theorem exists_draft_number (n : Number) :
    ∃ d : Draft, d.complete = true ∧ ∀ (ts : List Token) (rest : List Char),
      read ⟨.start,ts⟩ (n.write ++ rest) = read ⟨.numeral d,ts⟩ rest := by
  match n with
  | .int (.ofNat n) => exact ⟨whole false n,complete_whole .., fun ts rest => read_natural rest⟩
  | .int (.negSucc n) =>
    exact ⟨whole true (n + 1),complete_whole ..,fun ts rest => read_negative n.succ_pos rest⟩
  | .float x => exact exists_draft_double Number.layout x

end Json.Token

/-- The number that is read where a number was written; `none` beyond the largest double. -/
def Number.reread (n : Number) : Option Number :=
  match Json.Token.ofUnits (n.write.map some) with
  | [.num v] => v
  | _ => none

namespace Json.Token

/-- The reader passes the text of a number. -/
theorem read_written (n : Number) (ends : Ends rest) :
    read ⟨.start,ts⟩ (n.write ++ rest) = read ⟨.start,.num n.reread :: ts⟩ rest := by
  obtain ⟨d,complete,reads⟩ := exists_draft_number n
  have alone : Token.ofUnits (n.write.map some) = [.num d.number] := by
    have whole := reads [] []
    rw [List.append_nil,read_complete complete ends_nil] at whole
    exact whole
  rw [reads,read_complete complete ends,Number.reread,alone]

theorem reread_int {i : Int} (fits : Number.inRange i = true) :
    (Number.int i).reread = some (.int i) := by
  have alone : read ⟨.start,[]⟩ ((Number.int i).write ++ []) = _ := read_number fits ends_nil
  rw [List.append_nil] at alone
  rw [Number.reread]
  exact congrArg (fun ts : List Token => match ts with | [.num v] => v | _ => none) alone

end Json.Token

end Vicinity
