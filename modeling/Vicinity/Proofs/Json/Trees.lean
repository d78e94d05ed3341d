import Vicinity.Json.Decoder
import Vicinity.Proofs.Json.Tokens

/-! From the text of a value to its tree and back to the value. The builder, where it expects a
value, places the tree of the value whose tokens it is fed; the tree is read as the value it came
from if that is in order and not too deep. So an integral value in order survives its text. -/
namespace Vicinity.Json

open Node

/-! ## Building -/

/-- What a builder expects does not matter for a value that it is given. -/
theorem put_expect {fs : List Frame} {e e' : Expect} {root : Option Node} (n : Node) :
    (⟨fs,e,root,true⟩ : Builder).put n = (⟨fs,e',root,true⟩ : Builder).put n := by
  match fs with
  | [] | .arr _ :: _ | .obj _ _ :: _ => rfl

theorem feed_value {fs : List Frame} {e : Expect} {root : Option Node} {t : Token}
    (place : e = .value ∨ e = .firstItem) (begins : t ≠ .closeArr) :
    (⟨fs,e,root,true⟩ : Builder).feed t = (⟨fs,e,root,true⟩ : Builder).atValue t := by
  rcases place with rfl | rfl
  · rfl
  · cases t <;> first | rfl | exact absurd rfl begins

mutual

/-- The tree of the text of a value: its numbers are those that are read there. -/
def reread : Json → Node
  | .null => .null
  | .bool b => .bool b
  | .num n => .num n.reread
  | .str s => .str (some s)
  | .arr xs => .arr (rereadItems xs) true
  | .obj ms => .obj (rereadMembers ms) true

def rereadItems : List Json → List Node
  | [] => []
  | x :: xs => x.reread :: rereadItems xs

def rereadMembers : List (String × Json) → List (Option String × Node)
  | [] => []
  | (k,v) :: ms => (some k,v.reread) :: rereadMembers ms

end

mutual

/-- Fed the tokens of the text of a value, the builder places its tree. -/
theorem build_tokens (j : Json) {fs : List Frame} {e : Expect} {root : Option Node}
    (place : e = .value ∨ e = .firstItem) :
    (j.tokens.map Token.reread).foldl Builder.feed ⟨fs,e,root,true⟩ =
      (⟨fs,e,root,true⟩ : Builder).put j.reread := by
  match j with
  | .null => exact feed_value place nofun
  | .bool _ => exact feed_value place nofun
  | .num _ => exact feed_value place nofun
  | .str _ => exact feed_value place nofun
  | .arr [] =>
    have opened : (⟨fs,e,root,true⟩ : Builder).feed (Token.reread .openArr) =
        ⟨.arr [] :: fs,.firstItem,root,true⟩ := feed_value (t := .openArr) place nofun
    rw [tokens,List.map_cons,List.foldl_cons,opened]
    exact put_expect (.arr [] true)
  | .arr (x :: xs) =>
    have opened : (⟨fs,e,root,true⟩ : Builder).feed (Token.reread .openArr) =
        ⟨.arr [] :: fs,.firstItem,root,true⟩ := feed_value (t := .openArr) place nofun
    have first : (x.tokens.map Token.reread).foldl Builder.feed
        ⟨.arr [] :: fs,.firstItem,root,true⟩ = ⟨.arr [x.reread] :: fs,.next,root,true⟩ :=
      build_tokens x (.inr rfl)
    have closed : (⟨.arr (rereadItems (x :: xs)).reverse :: fs,.next,root,true⟩ : Builder).feed
        .closeArr = (⟨fs,.next,root,true⟩ : Builder).put
          (.arr (rereadItems (x :: xs)).reverse.reverse true) := rfl
    rw [List.reverse_reverse] at closed
    rw [tokens,List.map_cons,List.foldl_cons,opened,List.map_append,List.map_append,
      List.foldl_append,List.foldl_append,first,build_items xs,← List.reverse_cons]
    exact closed.trans (put_expect _)
  | .obj [] =>
    have opened : (⟨fs,e,root,true⟩ : Builder).feed (Token.reread .openObj) =
        ⟨.obj [] none :: fs,.firstKey,root,true⟩ := feed_value (t := .openObj) place nofun
    rw [tokens,List.map_cons,List.foldl_cons,opened]
    exact put_expect (.obj [] true)
  | .obj ((k,v) :: ms) =>
    have opened : (⟨fs,e,root,true⟩ : Builder).feed (Token.reread .openObj) =
        ⟨.obj [] none :: fs,.firstKey,root,true⟩ := feed_value (t := .openObj) place nofun
    have first : (v.tokens.map Token.reread).foldl Builder.feed
        ⟨.obj [] (some k) :: fs,.value,root,true⟩ =
        ⟨.obj [(some k,v.reread)] none :: fs,.next,root,true⟩ := build_tokens v (.inl rfl)
    have closed : (⟨.obj (rereadMembers ((k,v) :: ms)).reverse none :: fs,.next,root,true⟩ :
        Builder).feed .closeObj = (⟨fs,.next,root,true⟩ : Builder).put
          (.obj (rereadMembers ((k,v) :: ms)).reverse.reverse true) := rfl
    rw [List.reverse_reverse] at closed
    have keyed : ((tokens (.obj ((k,v) :: ms))).map Token.reread).foldl Builder.feed
          ⟨fs,e,root,true⟩ =
        ((v.tokens ++ memberTokens ms ++ [Token.closeObj]).map Token.reread).foldl Builder.feed
          ⟨.obj [] (some k) :: fs,.value,root,true⟩ := by
      rw [tokens,List.map_cons,List.foldl_cons,opened]
      rfl
    rw [keyed,List.map_append,List.map_append,List.foldl_append,List.foldl_append,first,
      build_members ms,← List.reverse_cons]
    exact closed.trans (put_expect _)

theorem build_items (xs : List Json) {fs : List Frame} {root : Option Node} {items : List Node} :
    ((itemTokens xs).map Token.reread).foldl Builder.feed ⟨.arr items :: fs,.next,root,true⟩ =
      ⟨.arr ((rereadItems xs).reverse ++ items) :: fs,.next,root,true⟩ := by
  match xs with
  | [] => rfl
  | x :: xs =>
    have comma : ((itemTokens (x :: xs)).map Token.reread).foldl Builder.feed
          ⟨.arr items :: fs,.next,root,true⟩ =
        ((x.tokens ++ itemTokens xs).map Token.reread).foldl Builder.feed
          ⟨.arr items :: fs,.value,root,true⟩ := rfl
    have item : (x.tokens.map Token.reread).foldl Builder.feed ⟨.arr items :: fs,.value,root,true⟩ =
        ⟨.arr (x.reread :: items) :: fs,.next,root,true⟩ := build_tokens x (.inl rfl)
    rw [comma,List.map_append,List.foldl_append,item,build_items xs]
    simp [rereadItems]

theorem build_members (ms : Members) {fs : List Frame} {root : Option Node}
    {built : List (Option String × Node)} :
    ((memberTokens ms).map Token.reread).foldl Builder.feed ⟨.obj built none :: fs,.next,root,true⟩ =
      ⟨.obj ((rereadMembers ms).reverse ++ built) none :: fs,.next,root,true⟩ := by
  match ms with
  | [] => rfl
  | (k,v) :: ms =>
    have comma : ((memberTokens ((k,v) :: ms)).map Token.reread).foldl Builder.feed
          ⟨.obj built none :: fs,.next,root,true⟩ =
        ((v.tokens ++ memberTokens ms).map Token.reread).foldl Builder.feed
          ⟨.obj built (some k) :: fs,.value,root,true⟩ := rfl
    have member : (v.tokens.map Token.reread).foldl Builder.feed
          ⟨.obj built (some k) :: fs,.value,root,true⟩ =
        ⟨.obj ((some k,v.reread) :: built) none :: fs,.next,root,true⟩ :=
      build_tokens v (.inl rfl)
    rw [comma,List.map_append,List.foldl_append,member,build_members ms]
    simp [rereadMembers]

end

/-- The text of a value is the text of a tree, whatever numbers are in it. -/
theorem ofUnits_compact (j : Json) :
    Document.ofUnits ((j.write []).map some) = ⟨some j.reread,true⟩ := by
  have built : (j.tokens.map Token.reread).foldl Builder.feed .start =
      Builder.put .start j.reread := build_tokens j (.inl rfl)
  rw [Document.ofUnits,ofUnits_write j,Document.ofTokens,built]
  rfl

mutual

/-- Integers are read as they were written. -/
theorem reread_integral (j : Json) (integral : j.Integral) : j.reread = j.toNode := by
  match j with
  | .null | .bool _ | .str _ => rfl
  | .num (.int i) => exact congrArg Node.num (Token.reread_int integral)
  | .arr xs => exact congrArg (Node.arr · true) (rereadItems_integral xs integral)
  | .obj ms => exact congrArg (Node.obj · true) (rereadMembers_integral ms integral)

theorem rereadItems_integral (xs : List Json) (integral : IntegralItems xs) :
    rereadItems xs = toNodes xs := by
  match xs with
  | [] => rfl
  | x :: xs => rw [rereadItems,toNodes,reread_integral x integral.1,
      rereadItems_integral xs integral.2]

theorem rereadMembers_integral (ms : Members) (integral : IntegralMembers ms) :
    rereadMembers ms = toNodeMembers ms := by
  match ms with
  | [] => rfl
  | (k,v) :: ms => rw [rereadMembers,toNodeMembers,reread_integral v integral.1,
      rereadMembers_integral ms integral.2]

end

/-! ## Reading -/

section

variable {ε α β : Type}

theorem bind_eq_ok {x : Except ε α} {g : α → Except ε β} {b : β} :
    x >>= g = .ok b ↔ ∃ a, x = .ok a ∧ g a = .ok b := by
  cases x with
  | error _ => exact ⟨nofun,fun ⟨_,impossible,_⟩ => nomatch impossible⟩
  | ok a => exact ⟨fun rest => ⟨a,rfl,rest⟩,fun ⟨_,same,rest⟩ => Except.ok.inj same ▸ rest⟩

@[simp] theorem ok_bind (a : α) (g : α → Except ε β) : Except.ok a >>= g = g a := rfl

@[simp] theorem pure_eq_ok {a b : α} : (pure a : Except ε α) = .ok b ↔ a = b :=
  ⟨Except.ok.inj,congrArg _⟩

@[simp] theorem mapError_eq_ok {ε' : Type} {x : Except ε α} {g : ε → ε'} {a : α} :
    x.mapError g = .ok a ↔ x = .ok a := by
  cases x <;> simp [Except.mapError]

@[simp] theorem require_eq_ok {b : Bool} {u : Unit} : require b = .ok u ↔ b = true := by
  cases b <;> simp [require]

@[simp] theorem present_eq_ok {o : Option α} {a : α} : present o = .ok a ↔ o = some a := by
  cases o <;> simp [present]

end

namespace Form

variable {f f' : Form} {a b d : Nat}

/-- Whether a value of a depth can be read. -/
def Fits (f : Form) (d : Nat) : Prop := ∀ n ∈ f.room, d ≤ n

/-- The reading inside, if there is room for it. -/
def inner (f : Form) : Form := { f with room := f.room.map (· - 1) }

@[simp] theorem fits_max : f.Fits (max a b) ↔ f.Fits a ∧ f.Fits b := by
  simp only [Fits,Nat.max_le,imp_and,forall_and]

@[simp] theorem fits_zero : f.Fits 0 := fun n _ => Nat.zero_le n

theorem Fits.mono (fits : f.Fits a) (less : b ≤ a) : f.Fits b :=
  fun n room => Nat.le_trans less (fits n room)

theorem fits_of_room {n : Nat} (room : f.room = some n) : f.Fits d ↔ d ≤ n := by
  simp [Fits,room]

@[simp] theorem fits_value : value.Fits d := nofun

@[simp] theorem inner_value : value.inner = value := rfl

theorem fits_succ : f.Fits (d + 1) ↔ f.Fits 1 ∧ f.inner.Fits d := by
  obtain ⟨room,held⟩ := f
  cases room with
  | none => simp [Fits,inner]
  | some n =>
    simp only [Fits,inner,Option.map_some,Option.mem_def,Option.some.injEq,forall_eq']
    omega

theorem enter_eq_ok : f.enter = .ok f' ↔ f.Fits 1 ∧ f.inner = f' := by
  obtain ⟨room,held⟩ := f
  match room with
  | none => simp [enter,Fits,inner]
  | some 0 => simp [enter,Fits]
  | some (n + 1) => simp [enter,Fits,inner]

theorem enter_eq (fits : f.Fits (d + 1)) : f.enter = .ok f.inner :=
  enter_eq_ok.mpr ⟨(fits_succ.mp fits).1,rfl⟩

end Form

mutual

/-- The tree of a value is read as that value. -/
theorem json_toNode (j : Json) {f : Form} (sorted : j.Ordered) (fits : f.Fits j.depth) :
    j.toNode.json f = .ok j := by
  match j with
  | .null => rfl
  | .bool _ => rfl
  | .num _ => rfl
  | .str _ => rfl
  | .arr xs =>
    have items := json_toNodes xs sorted (Form.fits_succ.mp fits).2
    rw [toNode,Node.json]
    exact bind_eq_ok.mpr ⟨f.inner,Form.enter_eq fits,bind_eq_ok.mpr ⟨xs,items,rfl⟩⟩
  | .obj ms =>
    have members := json_toNodeMembers ms sorted.2 (Form.fits_succ.mp fits).2
    have gathered : Json.object ms = .obj ms :=
      congrArg Json.obj (ordered_obj.mp sorted).1.ofList_eq
    rw [toNode,Node.json]
    exact bind_eq_ok.mpr ⟨f.inner,Form.enter_eq fits,
      bind_eq_ok.mpr ⟨ms,members,congrArg Except.ok gathered⟩⟩

theorem json_toNodes (xs : List Json) {f : Form} (sorted : OrderedItems xs)
    (fits : f.Fits (depthItems xs)) : jsonItems f (toNodes xs) = .ok xs := by
  match xs with
  | [] => rfl
  | x :: xs =>
    obtain ⟨first,rest⟩ := Form.fits_max.mp fits
    have item := json_toNode x sorted.1 first
    rw [toNodes,jsonItems]
    exact bind_eq_ok.mpr ⟨x,item,bind_eq_ok.mpr ⟨xs,json_toNodes xs sorted.2 rest,rfl⟩⟩

theorem json_toNodeMembers (ms : Members) {f : Form} (sorted : OrderedMembers ms)
    (fits : f.Fits (depthMembers ms)) : jsonMembers f (toNodeMembers ms) = .ok ms := by
  match ms with
  | [] => rfl
  | (k,v) :: ms =>
    obtain ⟨first,rest⟩ := Form.fits_max.mp fits
    have member := json_toNode v sorted.1 first
    rw [toNodeMembers,jsonMembers]
    exact bind_eq_ok.mpr ⟨k,rfl,bind_eq_ok.mpr ⟨v,member,
      bind_eq_ok.mpr ⟨ms,json_toNodeMembers ms sorted.2 rest,rfl⟩⟩⟩

end

/-- The text of an integral value in order is read as that value, if it does not nest too
deep. -/
theorem parse?_compact {j : Json} (integral : j.Integral) (sorted : j.Ordered)
    (shallow : j.depth ≤ 127) : parse? j.compact = some j := by
  have fits : Form.text.Fits j.depth := (Form.fits_of_room rfl).mpr shallow
  have read : decodeText Node.json ⟨some j.toNode,true⟩ = .ok j :=
    bind_eq_ok.mpr ⟨j.toNode,rfl,bind_eq_ok.mpr ⟨j,json_toNode j sorted fits,rfl⟩⟩
  rw [parse?,compact,Document.ofString,String.toList_ofList,ofUnits_compact,reread_integral j integral,read]
  rfl

end Vicinity.Json
