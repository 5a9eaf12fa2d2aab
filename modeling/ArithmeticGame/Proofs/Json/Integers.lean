import ArithmeticGame.Json.Value
import ArithmeticGame.Proofs.Json.Words
import Mathlib.Data.List.TakeWhile
/-!
# Integers as they are written

The decimal text of an integer is a bare word, and the value of that word is the integer.
-/
namespace ArithmeticGame.Json

def integerText (n : Int) : List UInt8 := bytes (toString n).toList

def digits (n : Nat) : List UInt8 := bytes (Nat.toDigits 10 n)

theorem integerText_natCast (n : Nat) : integerText n = digits n := by
  simp [integerText, digits, toString, Int.repr, Nat.repr]

theorem integerText_negSucc (n : Nat) : integerText (.negSucc n) = 0x2D :: digits (n + 1) := by
  have htext : (toString (Int.negSucc n)).toList = '-' :: Nat.toDigits 10 (n + 1) := by
    simp [toString, Int.repr, Nat.repr]
  rw [integerText, htext]
  rfl

/-! ## Digits -/

theorem isDigit_toUInt8 {c : Char} (h : c.isDigit = true) :
    isDigit c.toUInt8 = true ∧ Char.ofUInt8 c.toUInt8 = c := by
  have hc : 48 ≤ c.toNat ∧ c.toNat ≤ 57 := by
    simp only [Char.isDigit, Bool.and_eq_true, decide_eq_true_eq] at h
    exact h
  have hnat : c.toUInt8.toNat = c.toNat := by
    change (c.val.toUInt8).toNat = c.toNat
    rw [UInt32.toNat_toUInt8]
    exact Nat.mod_eq_of_lt (Nat.lt_of_le_of_lt hc.2 (by decide))
  constructor
  · simp only [isDigit, Bool.and_eq_true, decide_eq_true_eq, UInt8.le_iff_toNat_le, hnat]
    exact hc
  · apply Char.ext
    apply UInt32.toNat_inj.1
    exact hnat

theorem isDigit_of_mem_digits {n : Nat} {b : UInt8} (h : b ∈ digits n) : isDigit b = true := by
  obtain ⟨c, hc, rfl⟩ := List.mem_map.1 h
  exact (isDigit_toUInt8 (Nat.isDigit_of_mem_toDigits (by decide) (by decide) hc)).1

theorem digits_ne_minus (n : Nat) (rest : List UInt8) : digits n ≠ 0x2D :: rest := by
  intro h
  have hminus : isDigit 0x2D = true := isDigit_of_mem_digits (n := n) (by simp [h])
  cases hminus

theorem natural_digits (n : Nat) : Value.natural (digits n) = n := by
  have hchars : (digits n).map Char.ofUInt8 = Nat.toDigits 10 n := by
    rw [digits, bytes, List.map_map]
    refine (List.map_congr_left fun c hc => ?_).trans (List.map_id _)
    exact (isDigit_toUInt8 (Nat.isDigit_of_mem_toDigits (by decide) (by decide) hc)).2
  rw [Value.natural, hchars]
  exact Nat.ofDigitChars_ten_toDigits

theorem digits_ne_nil (n : Nat) : digits n ≠ [] := by
  simp [digits, bytes, Nat.toDigits_ne_nil]

theorem head?_digits_ne {n : Nat} (h : 0 < n) : (digits n).head? ≠ some 0x30 := by
  induction n using Nat.strongRecOn with
  | ind n ih =>
    by_cases hn : n < 10
    · have hsmall : ∀ n < 10, 0 < n → (digits n).head? ≠ some 0x30 := by decide
      exact hsmall n hn h
    · have hdigits : digits n = digits (n / 10) ++ [(n % 10).digitChar.toUInt8] := by
        rw [digits, Nat.toDigits_of_base_le (by decide) (by omega)]
        simp [digits, bytes]
      rw [hdigits, List.head?_append_of_ne_nil _ (digits_ne_nil _)]
      exact ih (n / 10) (by omega) (by omega)

theorem isWhole_digits (n : Nat) : isWhole (digits n) = true := by
  have hall : (digits n).all isDigit = true :=
    List.all_eq_true.2 fun b hb => isDigit_of_mem_digits hb
  obtain rfl | hn := Nat.eq_zero_or_pos n
  · rfl
  · simp [isWhole, hall, digits_ne_nil, head?_digits_ne hn]

/-! ## Numbers -/

theorem isNumber_digits (n : Nat) :
    isNumber (digits n) = true ∧ isNumber (0x2D :: digits n) = true := by
  have hall : ∀ b ∈ digits n, isDigit b = true := fun b hb => isDigit_of_mem_digits hb
  have htake : (digits n).takeWhile isDigit = digits n := List.takeWhile_eq_self_iff.2 hall
  have hdrop : (digits n).dropWhile isDigit = [] := List.dropWhile_eq_nil_iff.2 hall
  have hbody : isWhole ((digits n).takeWhile isDigit) = true ∧
      isFraction ((digits n).dropWhile isDigit) = true := by
    rw [htake, hdrop]
    exact ⟨isWhole_digits n, rfl⟩
  constructor
  · unfold isNumber
    split
    · next rest heq => exact absurd heq (digits_ne_minus n rest)
    · simpa using hbody
  · simpa [isNumber] using hbody

theorem legible_integer (n : Int) : (Word.bare (integerText n)).Legible := by
  have hdigit : ∀ {k : Nat}, ∀ b ∈ digits k, isBareByte b = true := by
    intro k b hb
    simp [isBareByte, isDigit_of_mem_digits hb]
  cases n with
  | ofNat n =>
    rw [Int.ofNat_eq_natCast, integerText_natCast]
    exact ⟨by simp [bare?, isNumber_digits n], hdigit⟩
  | negSucc n =>
    rw [integerText_negSucc]
    refine ⟨by simp [bare?, isNumber_digits], ?_⟩
    rintro b (_ | ⟨_, hb⟩)
    · rfl
    · exact hdigit b hb

theorem integer?_integerText (n : Int) : (Value.bare (integerText n)).integer? = some n := by
  cases n with
  | ofNat n =>
    rw [Int.ofNat_eq_natCast, integerText_natCast]
    unfold Value.integer?
    split
    · next ds heq => exact absurd (Value.bare.inj heq) (digits_ne_minus n ds)
    · next ds _ heq =>
      obtain rfl := Value.bare.inj heq
      rw [if_pos (isWhole_digits n), natural_digits]
    · next hbare => exact absurd rfl (hbare _)
  | negSucc n =>
    rw [integerText_negSucc]
    have hzero : digits (n + 1) ≠ [0x30] := fun h => head?_digits_ne n.succ_pos (by rw [h]; rfl)
    simp [Value.integer?, isWhole_digits, hzero, natural_digits, Int.negSucc_eq]

end ArithmeticGame.Json
