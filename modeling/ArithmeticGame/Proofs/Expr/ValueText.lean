import ArithmeticGame.Expr.Value
import ArithmeticGame.Proofs.Binary64.Unpacked
/-!
# The text of a value

The player sees a whole number of up to fifteen digits as it is, and of any other value the nearest
number with four decimal places.
-/
namespace ArithmeticGame

namespace Binary64

/-- The natural number is nearest to the rational one, and of two such it is the even one. -/
structure Nearest (q : ℚ) (n : Nat) : Prop where
  near : |q - n| ≤ 1 / 2
  even : |q - n| = 1 / 2 → Even n

theorem nearest_div {num den n : Nat} (hden : 0 < den)
    (hnear : 2 * ((num : Int) - n * den).natAbs ≤ den)
    (heven : 2 * ((num : Int) - n * den).natAbs = den → Even n) : Nearest (num / den) n := by
  have hpos : (0 : ℚ) < den := by exact_mod_cast hden
  have habs : |(num : ℚ) / den - n| = ((num : Int) - n * den).natAbs / den := by
    rw [div_sub' hpos.ne', abs_div, abs_of_pos hpos, Nat.cast_natAbs]
    push_cast
    rw [mul_comm (den : ℚ)]
  have hnear' : (2 : ℚ) * ((num : Int) - n * den).natAbs ≤ den := by exact_mod_cast hnear
  constructor
  · rw [habs, div_le_div_iff₀ hpos two_pos]
    linarith
  · intro heq
    rw [habs, div_eq_div_iff hpos.ne' two_ne_zero] at heq
    apply heven
    have heq' : (2 : ℚ) * ((num : Int) - n * den).natAbs = den := by linarith
    exact_mod_cast heq'

theorem nearest_roundDiv (num : Nat) {den : Nat} (hden : 0 < den) :
    Nearest (num / den) (roundDiv num den) := by
  obtain ⟨below, hbelow⟩ : ∃ below, num / den = below := ⟨_, rfl⟩
  obtain ⟨rest, hrest⟩ : ∃ rest, num % den = rest := ⟨_, rfl⟩
  have hlt : rest < den := hrest ▸ Nat.mod_lt num hden
  have hnum : (num : Int) = below * den + rest := by
    rw [← hbelow, ← hrest]
    exact_mod_cast (Nat.div_add_mod' num den).symm
  simp only [roundDiv, hbelow, hrest]
  split
  · next h =>
    have hsub : (num : Int) - below * den = rest := by rw [hnum]; ring
    simp only [Bool.or_eq_true, decide_eq_true_eq, Bool.and_eq_true, beq_iff_eq] at h
    apply nearest_div hden <;> rw [hsub]
    · omega
    · intro heq
      exact Nat.even_iff.2 (by omega)
  · next h =>
    have hsub : (num : Int) - (below + 1 : Nat) * den = rest - den := by
      rw [hnum]
      push_cast
      ring
    simp only [Bool.or_eq_true, decide_eq_true_eq, Bool.and_eq_true, beq_iff_eq] at h
    apply nearest_div hden <;> rw [hsub]
    · omega
    · intro heq
      exact Nat.even_iff.2 (by omega)

theorem nearest_scaled (places mantissa : Nat) (exponent : Int) :
    Nearest (mantissa * 2 ^ exponent * 10 ^ places) (scaled places mantissa exponent) := by
  have hden : 0 < 2 ^ (-exponent).toNat := Nat.two_pow_pos _
  have hround := nearest_roundDiv (mantissa * 10 ^ places * 2 ^ exponent.toNat) hden
  have hexponent : (2 : ℚ) ^ exponent = 2 ^ exponent.toNat / 2 ^ (-exponent).toNat := by
    rw [eq_div_iff (by positivity), ← zpow_natCast, ← zpow_natCast, ← zpow_add₀ two_ne_zero]
    congr 1
    omega
  have hvalue : (mantissa * 2 ^ exponent * 10 ^ places : ℚ) =
      (mantissa * 10 ^ places * 2 ^ exponent.toNat : Nat) / (2 ^ (-exponent).toNat : Nat) := by
    push_cast
    rw [hexponent]
    ring
  rw [hvalue, scaled, Nat.shiftLeft_eq, Nat.one_shiftLeft]
  exact hround

theorem exists_parts_of_isFinite {x : Float} (h : x.isFinite = true) :
    ∃ negative mantissa exponent, parts x = .finite negative mantissa exponent := by
  rw [parts_eq]
  change x.toModel.unpack.isFinite = true at h
  cases hu : x.toModel.unpack with
  | notANumber | infinity s =>
    rw [hu] at h
    cases h
  | zero s => exact ⟨_, _, _, rfl⟩
  | finite s m e hm => exact ⟨_, _, _, rfl⟩

end Binary64

namespace Expr

/-- What the player sees of a value. -/
inductive Writes (value : Float) : List Char → Prop
  | whole {n : Int} (hn : Binary64.toInt? value = some n) (hsmall : n.natAbs < 10 ^ 15) :
      Writes value (toString n).toList
  | decimal {negative : Bool} {mantissa n : Nat} {exponent : Int}
      (hparts : Binary64.parts value = .finite negative mantissa exponent)
      (hlarge : ∀ k, Binary64.toInt? value = some k → 10 ^ 15 ≤ k.natAbs)
      (hn : Binary64.Nearest (mantissa * 2 ^ exponent * 10 ^ 4) n) :
      Writes value ((if negative then ['-'] else []) ++ Nat.toDigits 10 (n / 10 ^ 4) ++
        '.' :: (Nat.toDigits 10 (n % 10 ^ 4)).leftpad 4 '0')

theorem writes_fixed {value : Float} (h : value.isFinite = true)
    (hlarge : ∀ k, Binary64.toInt? value = some k → 10 ^ 15 ≤ k.natAbs) :
    Writes value (Binary64.fixed 4 value).toList := by
  obtain ⟨negative, mantissa, exponent, hparts⟩ := Binary64.exists_parts_of_isFinite h
  have hwrites := Writes.decimal hparts hlarge (Binary64.nearest_scaled 4 mantissa exponent)
  simpa [Binary64.fixed, hparts, List.leftpad] using hwrites

theorem writes_valueText {value : Float} (h : value.isFinite = true) :
    Writes value (valueText value).toList := by
  rw [valueText]
  split
  · next n hn =>
    split
    · next hsmall => exact .whole hn hsmall
    · next hlarge =>
      refine writes_fixed h fun k hk => ?_
      obtain rfl : n = k := Option.some.inj (hn.symm.trans hk)
      exact Nat.le_of_not_lt hlarge
  · next hnone =>
    refine writes_fixed h fun k hk => ?_
    rw [hnone] at hk
    cases hk

end Expr
end ArithmeticGame
