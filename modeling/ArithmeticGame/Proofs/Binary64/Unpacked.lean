import ArithmeticGame.Binary64.Basic
import Mathlib
/-!
# Packed and unpacked values

Arithmetic takes the bits of a value apart and puts those of the result together. The parts that
it finds are those that the bits stand for, and a normal number is found again as it was packed.
-/
namespace ArithmeticGame.Binary64
open Float.Model (Format UnpackedFloat)
open Float.Model.UnpackedFloat (Sign)

theorem leadingBit_eq : leadingBit = 2 ^ 52 := Nat.one_shiftLeft 52

/-- A mantissa of 53 bits. -/
structure Normal (m : Nat) : Prop where
  low : 2 ^ 52 ≤ m
  high : m < 2 ^ 53

namespace Normal

variable {m : Nat}

theorem pos (h : Normal m) : 0 < m :=
  Nat.lt_of_lt_of_le (Nat.two_pow_pos 52) h.low

theorem log2_eq (h : Normal m) : m.log2 = 52 :=
  (Nat.log2_eq_iff h.pos.ne').2 ⟨h.low, h.high⟩

theorem of_log2_eq (hm : m ≠ 0) (h : m.log2 = 52) : Normal m :=
  have hbounds := (Nat.log2_eq_iff hm).1 h
  ⟨hbounds.1, hbounds.2⟩

end Normal

/-! ## Reading the bits -/

theorem toNat_unpackMantissa (b : BitVec 64) :
    (@UnpackedFloat.unpackMantissa .binary64 b).toNat = b.toNat % 2 ^ 52 := by
  simp [UnpackedFloat.unpackMantissa, BitVec.extractLsb]

theorem toNat_unpackExponent (b : BitVec 64) :
    (@UnpackedFloat.unpackExponent .binary64 b).toNat = b.toNat / 2 ^ 52 % 2048 := by
  simp [UnpackedFloat.unpackExponent, BitVec.extractLsb, Nat.shiftRight_eq_div_pow]

theorem toNat_unpackSign (b : BitVec 64) :
    (@UnpackedFloat.unpackSign .binary64 b).toNat = b.toNat / 2 ^ 63 := by
  have hb := b.isLt
  simp [UnpackedFloat.unpackSign, BitVec.extractLsb, Nat.shiftRight_eq_div_pow]
  omega

theorem toNat_leading_append (m : BitVec 52) : (1#1 ++ m).toNat = leadingBit + m.toNat := by
  rw [BitVec.toNat_append, ← Nat.shiftLeft_add_eq_or_of_lt m.isLt]
  rfl

def unpackFields (s : Sign) (exponent mantissa : Nat) : UnpackedFloat :=
  if exponent = 2047 then
    if mantissa = 0 then .infinity s else .notANumber
  else if exponent = 0 then
    if h : mantissa = 0 then .zero s else .finite s mantissa (-1074) (Nat.pos_of_ne_zero h)
  else .finite s (leadingBit + mantissa) (exponent - 1075)
    (Nat.add_pos_left (by decide) mantissa)

theorem unpack_eq (b : BitVec 64) : UnpackedFloat.unpack .binary64 b =
    unpackFields (Sign.ofBitVec (@UnpackedFloat.unpackSign .binary64 b))
      (@UnpackedFloat.unpackExponent .binary64 b).toNat
      (@UnpackedFloat.unpackMantissa .binary64 b).toNat := by
  have hm0 : @UnpackedFloat.unpackMantissa .binary64 b = 0#52 ↔
      (@UnpackedFloat.unpackMantissa .binary64 b).toNat = 0 := BitVec.toNat_inj.symm
  have he0 : @UnpackedFloat.unpackExponent .binary64 b = 0#11 ↔
      (@UnpackedFloat.unpackExponent .binary64 b).toNat = 0 := BitVec.toNat_inj.symm
  have he1 : @UnpackedFloat.unpackExponent .binary64 b = -1#11 ↔
      (@UnpackedFloat.unpackExponent .binary64 b).toNat = 2047 := BitVec.toNat_inj.symm
  rw [UnpackedFloat.unpack, unpackFields]
  simp only [he0, he1, hm0, toNat_leading_append]
  split
  · rfl
  · split
    · next h => simp only [h]; rfl
    · rfl

/-- What the parts that arithmetic works on stand for. -/
def Parts.ofUnpacked : UnpackedFloat → Parts
  | .notANumber => .nan
  | .infinity s => .infinite (s == .negative)
  | .zero s => .finite (s == .negative) 0 (-1074)
  | .finite s m e _ => .finite (s == .negative) m e

theorem ofBitVec_eq_negative (b : BitVec 1) :
    (Sign.ofBitVec b == .negative) = (b.toNat == 1) := by
  revert b
  decide

theorem parts_eq (x : Float) : parts x = .ofUnpacked x.toModel.unpack := by
  obtain ⟨⟨⟨b⟩, hvalid⟩⟩ := x
  have hs : (Sign.ofBitVec (@UnpackedFloat.unpackSign .binary64 b) == .negative) =
      (b.toNat >>> 63 == 1) := by
    rw [ofBitVec_eq_negative, toNat_unpackSign, Nat.shiftRight_eq_div_pow]
  have hm : (@UnpackedFloat.unpackMantissa .binary64 b).toNat = b.toNat % leadingBit :=
    toNat_unpackMantissa b
  have he : (@UnpackedFloat.unpackExponent .binary64 b).toNat = (b.toNat >>> 52) % 2048 := by
    rw [toNat_unpackExponent, Nat.shiftRight_eq_div_pow]
  change Parts.ofBits (UInt64.ofBitVec b) = .ofUnpacked (UnpackedFloat.unpack .binary64 b)
  rw [unpack_eq, unpackFields]
  simp only [Parts.ofBits, UInt64.toNat_ofBitVec, ← hs, ← hm, ← he]
  split
  · split <;> rfl
  · split
    · split
      · next h => rw [h, Parts.ofUnpacked]
      · rfl
    · rfl

/-- Short of the least exponent, mantissas have 53 bits. -/
theorem unpack_finite {x : Float} {s : Sign} {m : Nat} {e : Int} {hm : 0 < m}
    (h : x.toModel.unpack = .finite s m e hm) :
    m < 2 ^ 53 ∧ e ≤ 971 ∧ (e ≠ -1074 → Normal m) := by
  obtain ⟨⟨⟨b⟩, hvalid⟩⟩ := x
  have hmantissa : (@UnpackedFloat.unpackMantissa .binary64 b).toNat < 2 ^ 52 := BitVec.isLt _
  have hexponent : (@UnpackedFloat.unpackExponent .binary64 b).toNat < 2 ^ 11 := BitVec.isLt _
  change UnpackedFloat.unpack .binary64 b = _ at h
  rw [unpack_eq, unpackFields] at h
  split at h
  · split at h <;> cases h
  · split at h
    · split at h
      · cases h
      · cases h
        refine ⟨by omega, by decide, ?_⟩
        intro he
        exact absurd rfl he
    · cases h
      rw [leadingBit_eq]
      refine ⟨by omega, by omega, ?_⟩
      intro _
      exact ⟨by omega, by omega⟩

/-! ## Packing -/

theorem sign_packComponents (s : Sign) (exponent : BitVec 11) (mantissa : BitVec 52) :
    Sign.ofBitVec (UnpackedFloat.unpackSign
      (UnpackedFloat.packComponents .binary64 s exponent mantissa)) = s := by
  change Sign.ofBitVec ((s.toBitVec ++ exponent ++ mantissa).extractLsb' 63 1) = s
  rw [BitVec.extractLsb'_append_eq_of_le (by decide),
    BitVec.extractLsb'_append_eq_of_le (by decide)]
  cases s <;> rfl

theorem unpack_pack (s : Sign) {m : Nat} {e : Int} (hm : Normal m) (hmin : -1074 ≤ e)
    (hmax : e ≤ 971) :
    (Float.Model.pack (.finite s m e hm.pos)).unpack = .finite s m e hm.pos := by
  have hlow := hm.low
  have hhigh := hm.high
  obtain ⟨b, hb⟩ : ∃ b : Nat, (b : Int) = e + 1075 := ⟨(e + 1075).toNat, by omega⟩
  have hpack : UnpackedFloat.pack .binary64 (.finite s m e hm.pos) =
      UnpackedFloat.packComponents .binary64 s (BitVec.ofNat 11 b) (BitVec.ofNat 52 m) := by
    have he : (e + Format.exponentBias .binary64 + (52 : Nat)).toNat = b := by
      simp only [Format.exponentBias]
      omega
    have hfull : ¬ 2 ^ 11 ≤ b + 1 := by omega
    have hnormal : m.log2 + 1 = Format.mantissaBits .binary64 := by rw [hm.log2_eq]; rfl
    simp only [UnpackedFloat.pack]
    rw [he, if_neg hfull, if_pos hnormal]
  have hexponent : (BitVec.ofNat 11 b).toNat = b := by
    rw [BitVec.toNat_ofNat]
    omega
  have hmantissa : leadingBit + (BitVec.ofNat 52 m).toNat = m := by
    rw [leadingBit_eq, BitVec.toNat_ofNat]
    omega
  change UnpackedFloat.unpack .binary64 (UnpackedFloat.pack .binary64 (.finite s m e hm.pos)) = _
  rw [hpack, unpack_eq, sign_packComponents, UnpackedFloat.unpackExponent_packComponents,
    UnpackedFloat.unpackMantissa_packComponents, unpackFields, hexponent, if_neg (by omega),
    if_neg (by omega)]
  simp only [hmantissa, hb, Int.add_sub_cancel]

theorem unpack_pack_zero (s : Sign) : (Float.Model.pack (.zero s)).unpack = .zero s := by
  cases s <;> rfl

end ArithmeticGame.Binary64
