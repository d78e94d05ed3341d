import Vicinity.Proofs.Json.Numerals
import Vicinity.Proofs.Json.Order

/-! The tokens of a written value. The reader, started in front of the text of a value, passes the
text and has the tokens of the value, with its numbers as they are read. -/
namespace Vicinity

namespace Json.Token

variable {ts : List Token} {rest : List Char} {got : List Char}

/-! ## Strings -/

theorem hexDigit?_hexDigit {d : Nat} (digit : d < 16) :
    Lexer.hexDigit? (hexDigit d) = some d := by
  interval_cases d <;> rfl

theorem read_control {c : Char} (control : c.toNat < 0x20) (rest : List Char) :
    read ⟨.text (some got),ts⟩ ('\\' :: 'u' :: '0' :: '0' :: hexDigit (c.toNat / 16) ::
      hexDigit (c.toNat % 16) :: rest) = read ⟨.text (some (c :: got)),ts⟩ rest := by
  have escape : read ⟨.text (some got),ts⟩ ('\\' :: 'u' :: '0' :: '0' ::
      hexDigit (c.toNat / 16) :: hexDigit (c.toNat % 16) :: rest) =
      read ⟨.hex (some got) none 0 2,ts⟩
        (hexDigit (c.toNat / 16) :: hexDigit (c.toNat % 16) :: rest) := rfl
  have value : c.toNat / 16 * 16 + c.toNat % 16 = c.toNat := by omega
  have plain : Lexer.isHigh c.toNat = false ∧ Lexer.isLow c.toNat = false := by
    simp only [Lexer.isHigh,Lexer.isLow,Bool.and_eq_false_iff,decide_eq_false_iff_not]
    omega
  rw [escape,read_cons,read_cons]
  simp [Lexer.feed,hexDigit?_hexDigit (show c.toNat / 16 < 16 by omega),Lexer.goTo,
    hexDigit?_hexDigit (show c.toNat % 16 < 16 by omega),Lexer.closeHex,value,plain,Lexer.push]

/-- Any other character of a string stands for itself. -/
theorem feed_plain {c : Char} (quote : c ≠ '"') (backslash : c ≠ '\\')
    (plain : ¬c.toNat < 0x20) :
    Lexer.feed ⟨.text (some got),ts⟩ (some c) = ⟨.text (some (c :: got)),ts⟩ := by
  simp only [Lexer.feed,Lexer.inText,if_neg plain]
  rfl

theorem read_char (c : Char) (rest : List Char) :
    read ⟨.text (some got),ts⟩ (writeChar c rest) =
      read ⟨.text (some (c :: got)),ts⟩ rest := by
  unfold writeChar
  split
  case h_8 quote backslash _ _ _ _ _ =>
    split
    next control => exact read_control control rest
    next plain => rw [read_cons,feed_plain quote backslash plain]
  all_goals rfl

theorem read_chars (cs : List Char) (rest : List Char) :
    read ⟨.text (some got),ts⟩ (writeChars cs rest) =
      read ⟨.text (some (cs.reverse ++ got)),ts⟩ rest := by
  induction cs generalizing got with
  | nil => rfl
  | cons c cs ih =>
    rw [writeChars,List.foldr_cons,read_char,← writeChars,ih]
    simp

theorem read_string (s : String) (rest : List Char) :
    read ⟨.start,ts⟩ (writeString s rest) = read ⟨.start,.str (some s) :: ts⟩ rest := by
  have opened : read ⟨.start,ts⟩ (writeString s rest) =
      read ⟨.text (some []),ts⟩ (writeChars s.toList ('"' :: rest)) := rfl
  have closed : read ⟨.text (some s.toList.reverse),ts⟩ ('"' :: rest) =
      read ⟨.start,.str (some (String.ofList s.toList.reverse.reverse)) :: ts⟩ rest := rfl
  rw [opened,read_chars,List.append_nil,closed,List.reverse_reverse,String.ofList_toList]

end Json.Token

namespace Json

open Token

/-! ## Values -/

mutual

/-- The tokens of the text of a value. -/
def tokens : Json → List Token
  | .null => [.null]
  | .bool b => [.bool b]
  | .num n => [.num (some n)]
  | .str s => [.str (some s)]
  | .arr [] => [.openArr,.closeArr]
  | .arr (x :: xs) => .openArr :: (tokens x ++ itemTokens xs ++ [.closeArr])
  | .obj [] => [.openObj,.closeObj]
  | .obj ((k,v) :: ms) =>
    .openObj :: .str (some k) :: .colon :: (tokens v ++ memberTokens ms ++ [.closeObj])

/-- The tokens of the items after the first one. -/
def itemTokens : List Json → List Token
  | [] => []
  | x :: xs => .comma :: (tokens x ++ itemTokens xs)

def memberTokens : List (String × Json) → List Token
  | [] => []
  | (k,v) :: ms => .comma :: .str (some k) :: .colon :: (tokens v ++ memberTokens ms)

end

theorem ends_writeItems (xs : List Json) {rest : List Char} (ends : Ends rest) :
    Ends (writeItems xs rest) := by
  cases xs with
  | nil => exact ends
  | cons x xs =>
    rintro _ ⟨⟩
    exact .inl rfl

theorem ends_writeMembers (ms : Members) {rest : List Char} (ends : Ends rest) :
    Ends (writeMembers ms rest) := by
  cases ms with
  | nil => exact ends
  | cons m ms =>
    rintro _ ⟨⟩
    exact .inl rfl

theorem ends_bracket (rest : List Char) : Ends (']' :: rest) := by
  rintro _ ⟨⟩
  exact .inr (.inl rfl)

theorem ends_brace (rest : List Char) : Ends ('}' :: rest) := by
  rintro _ ⟨⟩
  exact .inr (.inr rfl)

/-- A token as it is read where it was written. -/
def Token.reread : Token → Token
  | .num (some n) => .num n.reread
  | t => t

mutual

/-- The reader passes the text of a value and has its tokens. -/
theorem read_write (j : Json) {ts : List Token} {rest : List Char} (ends : Ends rest) :
    read ⟨.start,ts⟩ (j.write rest) =
      read ⟨.start,(j.tokens.map Token.reread).reverse ++ ts⟩ rest := by
  match j with
  | .null | .bool true | .bool false | .arr [] | .obj [] => rfl
  | .num n => exact read_written n ends
  | .str s => exact read_string s rest
  | .arr (x :: xs) =>
    calc read ⟨.start,ts⟩ (write (.arr (x :: xs)) rest)
        = read ⟨.start,.openArr :: ts⟩ (x.write (writeItems xs (']' :: rest))) := rfl
      _ = read ⟨.start,((x.tokens ++ itemTokens xs).map Token.reread).reverse ++ .openArr :: ts⟩
            (']' :: rest) := by
        rw [read_write x (ends_writeItems xs (ends_bracket rest)),
          read_writeItems xs (ends_bracket rest),List.map_append,List.reverse_append,
          List.append_assoc]
      _ = read ⟨.start,.closeArr ::
            (((x.tokens ++ itemTokens xs).map Token.reread).reverse ++ .openArr :: ts)⟩ rest := rfl
      _ = read ⟨.start,((tokens (.arr (x :: xs))).map Token.reread).reverse ++ ts⟩ rest := by
        simp [tokens,Token.reread]
  | .obj ((k,v) :: ms) =>
    calc read ⟨.start,ts⟩ (write (.obj ((k,v) :: ms)) rest)
        = read ⟨.start,.openObj :: ts⟩
            (writeString k (':' :: v.write (writeMembers ms ('}' :: rest)))) := rfl
      _ = read ⟨.start,.colon :: .str (some k) :: .openObj :: ts⟩
            (v.write (writeMembers ms ('}' :: rest))) := read_string k _
      _ = read ⟨.start,((v.tokens ++ memberTokens ms).map Token.reread).reverse ++
            .colon :: .str (some k) :: .openObj :: ts⟩ ('}' :: rest) := by
        rw [read_write v (ends_writeMembers ms (ends_brace rest)),
          read_writeMembers ms (ends_brace rest),List.map_append,List.reverse_append,
          List.append_assoc]
      _ = read ⟨.start,.closeObj :: (((v.tokens ++ memberTokens ms).map Token.reread).reverse ++
            .colon :: .str (some k) :: .openObj :: ts)⟩ rest := rfl
      _ = read ⟨.start,((tokens (.obj ((k,v) :: ms))).map Token.reread).reverse ++ ts⟩ rest := by
        simp [tokens,Token.reread]

theorem read_writeItems (xs : List Json) {ts : List Token} {rest : List Char} (ends : Ends rest) :
    read ⟨.start,ts⟩ (writeItems xs rest) =
      read ⟨.start,((itemTokens xs).map Token.reread).reverse ++ ts⟩ rest := by
  match xs with
  | [] => rfl
  | x :: xs =>
    have comma : read ⟨.start,ts⟩ (writeItems (x :: xs) rest) =
        read ⟨.start,.comma :: ts⟩ (x.write (writeItems xs rest)) := rfl
    rw [comma,read_write x (ends_writeItems xs ends),read_writeItems xs ends]
    simp [itemTokens,Token.reread]

theorem read_writeMembers (ms : Members) {ts : List Token} {rest : List Char} (ends : Ends rest) :
    read ⟨.start,ts⟩ (writeMembers ms rest) =
      read ⟨.start,((memberTokens ms).map Token.reread).reverse ++ ts⟩ rest := by
  match ms with
  | [] => rfl
  | (k,v) :: ms =>
    have key : read ⟨.start,ts⟩ (writeMembers ((k,v) :: ms) rest) =
        read ⟨.start,.colon :: .str (some k) :: .comma :: ts⟩ (v.write (writeMembers ms rest)) :=
      read_string k _
    rw [key,read_write v (ends_writeMembers ms ends),read_writeMembers ms ends]
    simp [memberTokens,Token.reread]

end

/-- The tokens of a text that a value was written to. -/
theorem ofUnits_write (j : Json) :
    Token.ofUnits ((j.write []).map some) = j.tokens.map Token.reread := by
  have written : read ⟨.start,[]⟩ (j.write []) =
      read ⟨.start,(j.tokens.map Token.reread).reverse ++ []⟩ [] := read_write j nofun
  rw [List.append_nil] at written
  calc Token.ofUnits ((j.write []).map some) = read ⟨.start,[]⟩ (j.write []) := rfl
    _ = read ⟨.start,(j.tokens.map Token.reread).reverse⟩ [] := written
    _ = j.tokens.map Token.reread := List.reverse_reverse _

/-! ## Integers -/

/-- A token that is a number stands for an integer in range. -/
def Token.Integral (t : Token) : Prop :=
  ∀ number, t = .num number → ∃ i, number = some (.int i) ∧ Number.inRange i

@[simp] theorem Token.integral_int {i : Int} :
    (Token.num (some (.int i))).Integral ↔ Number.inRange i := by
  simp [Token.Integral]

@[simp] theorem Token.integral_other {t : Token} (other : ∀ number, t ≠ .num number) :
    t.Integral := fun number same => absurd same (other number)

mutual

/-- The text of an integral value has such numbers only. -/
theorem integral_tokens (j : Json) (integral : j.Integral) : ∀ t ∈ j.tokens, t.Integral := by
  match j with
  | .null | .bool _ | .str _ | .arr [] | .obj [] => simp [tokens]
  | .num (.int i) =>
    have fits : Number.inRange i := integral
    simpa [tokens] using fits
  | .arr (x :: xs) =>
    have first := integral_tokens x integral.1
    have rest := integral_itemTokens xs integral.2
    simp only [tokens,List.forall_mem_cons,List.forall_mem_append]
    exact ⟨by simp,⟨first,rest⟩,by simp⟩
  | .obj ((k,v) :: ms) =>
    have first := integral_tokens v integral.1
    have rest := integral_memberTokens ms integral.2
    simp only [tokens,List.forall_mem_cons,List.forall_mem_append]
    exact ⟨by simp,by simp,by simp,⟨first,rest⟩,by simp⟩

theorem integral_itemTokens (xs : List Json) (integral : IntegralItems xs) :
    ∀ t ∈ itemTokens xs, t.Integral := by
  match xs with
  | [] => exact nofun
  | x :: xs =>
    have first := integral_tokens x integral.1
    have rest := integral_itemTokens xs integral.2
    simp only [itemTokens,List.forall_mem_cons,List.forall_mem_append]
    exact ⟨by simp,first,rest⟩

theorem integral_memberTokens (ms : Members) (integral : IntegralMembers ms) :
    ∀ t ∈ memberTokens ms, t.Integral := by
  match ms with
  | [] => exact nofun
  | (k,v) :: ms =>
    have first := integral_tokens v integral.1
    have rest := integral_memberTokens ms integral.2
    simp only [memberTokens,List.forall_mem_cons,List.forall_mem_append]
    exact ⟨by simp,by simp,by simp,first,rest⟩

end

theorem Token.Integral.reread {t : Token} (integral : t.Integral) : t.reread = t := by
  cases t with
  | num number =>
    obtain ⟨i,rfl,fits⟩ := integral number rfl
    exact congrArg Token.num (reread_int fits)
  | _ => rfl

/-- Integers are read as they were written. -/
theorem ofUnits_integral (j : Json) (integral : j.Integral) :
    Token.ofUnits ((j.write []).map some) = j.tokens := by
  have same : j.tokens.map Token.reread = j.tokens.map id :=
    List.map_congr_left fun t member => (integral_tokens j integral t member).reread
  rw [ofUnits_write,same,List.map_id]

end Json

end Vicinity
