import ArithmeticGame.Proofs.Binary64.Unpacked
/-!
# Whole numbers

A whole number up to `2 ^ 53` has room in the 53 bits of a mantissa, so rounding keeps it. Beyond
that bits may be rounded away, but the exponent stays that of the number itself or the next one, and
the value stays whole.
-/
namespace ArithmeticGame.Binary64
open Float.Model (Format UnpackedFloat totalExponent)
open Float.Model.UnpackedFloat (Accuracy ExtendedMantissa Sign)

/-! ## Rounding -/

theorem mantissa_shiftRight (em : ExtendedMantissa) (k : Nat) :
    (em >>> k).mantissa = em.mantissa / 2 ^ k := by
  change (k.repeat ExtendedMantissa.shiftRightOne em).mantissa = _
  induction k with
  | zero => simp [Nat.repeat]
  | succ k ih =>
    simp only [Nat.repeat, ExtendedMantissa.shiftRightOne, ih]
    rw [Nat.div_div_eq_div_mul, pow_succ]

theorem roundedMantissa_bounds (em : ExtendedMantissa) :
    em.mantissa ≤ em.roundedMantissa ∧ em.roundedMantissa ≤ em.mantissa + 1 := by
  obtain ⟨m, r, s⟩ := em
  cases r <;> cases s <;>
    simp only [ExtendedMantissa.roundedMantissa, ExtendedMantissa.accuracy,
      Accuracy.roundToNearestEven] <;> omega

theorem log2_mul_two_pow {n : Nat} (hn : n ≠ 0) (k : Nat) : (n * 2 ^ k).log2 = n.log2 + k := by
  induction k with
  | zero => simp
  | succ k ih =>
    have hk : n * 2 ^ k ≠ 0 := Nat.mul_ne_zero hn (Nat.two_pow_pos k).ne'
    rw [pow_succ, ← mul_assoc, mul_comm, Nat.log2_two_mul hk, ih]
    rfl

theorem targetExponent_eq {m : Nat} {e : Int} (h : -1022 ≤ m.log2 + e) :
    Format.targetExponent .binary64 (totalExponent m e) = m.log2 + e - 52 := by
  simp only [Format.targetExponent, totalExponent, Format.minExponent, Format.mantissaBits]
  omega

theorem shiftRight_mul (q j : Nat) :
    (⟨q * 2 ^ j, false, false⟩ : ExtendedMantissa) >>> j = ⟨q, false, false⟩ := by
  change j.repeat ExtendedMantissa.shiftRightOne ⟨q * 2 ^ j, false, false⟩ = _
  induction j generalizing q with
  | zero => simp [Nat.repeat]
  | succ j ih =>
    rw [Nat.repeat, pow_succ', ← mul_assoc, ih]
    simp [ExtendedMantissa.shiftRightOne]

variable {q : Nat} {f : Int}

/-- Shifting stops at 53 bits, and loses nothing if the bits beyond them are zero. -/
theorem shiftToTargetExponent_exact (hq : Normal q) (hf : -1074 ≤ f) (j : Nat) :
    UnpackedFloat.shiftToTargetExponent .binary64 (q * 2 ^ j) (f - j) .exact =
      (⟨q, false, false⟩, f) := by
  have hlog : (q * 2 ^ j).log2 = 52 + j := by
    rw [log2_mul_two_pow hq.pos.ne', hq.log2_eq]
  have htarget : Format.targetExponent .binary64 (totalExponent (q * 2 ^ j) (f - j)) = f := by
    rw [targetExponent_eq (by rw [hlog]; omega), hlog]
    omega
  have hshift : (f - (f - j)).toNat = j := by omega
  rw [UnpackedFloat.shiftToTargetExponent, htarget, UnpackedFloat.shiftToExponent, hshift,
    Int.sub_add_cancel, ← shiftRight_mul q j]
  rfl

/-- What is left of a mantissa after rounding is shifted once more, by a place if there was a
carry. -/
theorem roundWithAccuracy_of_shift {m : Nat} {e : Int} {accuracy : Accuracy}
    {em : ExtendedMantissa} {j : Nat} (hq : Normal q) (hf : -1074 ≤ f)
    (hshift : UnpackedFloat.shiftToTargetExponent .binary64 m e accuracy = (em, f - j))
    (heq : em.roundedMantissa = q * 2 ^ j) (s : Sign) :
    UnpackedFloat.roundWithAccuracy .binary64 s m e accuracy = .finite s q f hq.pos := by
  have hlast := shiftToTargetExponent_exact hq hf j
  rw [← heq] at hlast
  simp only [UnpackedFloat.roundWithAccuracy, hshift, hlast]
  exact dif_neg hq.pos.ne'

theorem roundWithAccuracy_exact (hq : Normal q) (hf : -1074 ≤ f) (j : Nat) (s : Sign) :
    UnpackedFloat.roundWithAccuracy .binary64 s (q * 2 ^ j) (f - j) .exact =
      .finite s q f hq.pos := by
  have hshift := shiftToTargetExponent_exact hq hf j
  have hrounded : (⟨q, false, false⟩ : ExtendedMantissa).roundedMantissa = q * 2 ^ 0 :=
    (Nat.mul_one q).symm
  refine roundWithAccuracy_of_shift hq hf ?_ hrounded s
  rw [hshift, Int.natCast_zero, Int.sub_zero]

theorem roundWithAccuracy_of_bounds {m : Nat} {e e' : Int} {accuracy : Accuracy}
    {em : ExtendedMantissa}
    (hshift : UnpackedFloat.shiftToTargetExponent .binary64 m e accuracy = (em, e'))
    (hlow : 2 ^ 52 ≤ em.roundedMantissa) (hhigh : em.roundedMantissa ≤ 2 ^ 53)
    (he : -1074 ≤ e') :
    ∃ (q : Nat) (f : Int) (hq : Normal q), e' ≤ f ∧ f ≤ e' + 1 ∧
      ∀ s, UnpackedFloat.roundWithAccuracy .binary64 s m e accuracy = .finite s q f hq.pos := by
  rcases Nat.lt_or_eq_of_le hhigh with hlt | heq
  · have hq : Normal em.roundedMantissa := ⟨hlow, hlt⟩
    refine ⟨em.roundedMantissa, e', hq, by omega, by omega, ?_⟩
    exact roundWithAccuracy_of_shift (j := 0) hq he (by simpa using hshift) (by simp)
  · have hq : Normal (2 ^ 52) := ⟨le_rfl, by decide⟩
    refine ⟨2 ^ 52, e' + 1, hq, by omega, by omega, ?_⟩
    exact roundWithAccuracy_of_shift (j := 1) hq (by omega) (by simpa using hshift) heq

/-- A number that is a mantissa of 53 bits and an exponent is rounded to these, in whatever form it
is given. -/
theorem round_exact {m a b : Nat} {e : Int} (hq : Normal q) (hf : -1074 ≤ f)
    (h : m * 2 ^ a = q * 2 ^ b) (he : e + b = f + a) (s : Sign) :
    UnpackedFloat.round .binary64 s m e = .finite s q f hq.pos := by
  have hm : m ≠ 0 := by
    rintro rfl
    have hpos : 0 < q * 2 ^ b := Nat.mul_pos hq.pos (Nat.two_pow_pos b)
    omega
  have hlog : m.log2 + a = 52 + b := by
    rw [← log2_mul_two_pow hm, h, log2_mul_two_pow hq.pos.ne', hq.log2_eq]
  have htarget : Format.targetExponent .binary64 (totalExponent m e) = f := by
    rw [targetExponent_eq (by omega)]
    omega
  rcases Nat.le_total a b with hab | hab
  · -- the bits that are too many are all zero
    obtain ⟨j, rfl⟩ := Nat.exists_eq_add_of_le hab
    obtain rfl : m = q * 2 ^ j := by
      rw [Nat.add_comm, pow_add, ← mul_assoc] at h
      exact Nat.eq_of_mul_eq_mul_right (Nat.two_pow_pos a) h
    obtain rfl : e = f - j := by omega
    have hshift : (f - j - f).toNat = 0 := by omega
    rw [UnpackedFloat.round, htarget, UnpackedFloat.decreaseExponent, hshift, Nat.shiftLeft_zero,
      Int.natCast_zero, Int.sub_zero]
    exact roundWithAccuracy_exact hq hf j s
  · obtain ⟨j, rfl⟩ := Nat.exists_eq_add_of_le hab
    obtain rfl : m * 2 ^ j = q := by
      rw [Nat.add_comm, pow_add, ← mul_assoc] at h
      exact Nat.eq_of_mul_eq_mul_right (Nat.two_pow_pos b) h
    obtain rfl : e = f + j := by omega
    have hshift : (f + j - f).toNat = j := by omega
    rw [UnpackedFloat.round, htarget, UnpackedFloat.decreaseExponent, hshift, Nat.shiftLeft_eq,
      Int.add_sub_cancel]
    simpa using roundWithAccuracy_exact hq hf 0 s

/-- A mantissa with too many bits is cut to 53 of them, and its exponent moves by one more place for
a carry. -/
theorem round_cut {m k : Nat} {e : Int} (hm : m ≠ 0) (hlog : m.log2 = 52 + k)
    (he : -1074 ≤ e + k) :
    ∃ (q : Nat) (f : Int) (hq : Normal q), e + k ≤ f ∧ f ≤ e + k + 1 ∧
      ∀ s, UnpackedFloat.round .binary64 s m e = .finite s q f hq.pos := by
  have htarget : Format.targetExponent .binary64 (totalExponent m e) = e + k := by
    rw [targetExponent_eq (by omega)]
    omega
  have hdecrease : UnpackedFloat.decreaseExponent m e (e + k) = (m, e) := by
    have hshift : (e - (e + k)).toNat = 0 := by omega
    rw [UnpackedFloat.decreaseExponent, hshift, Nat.shiftLeft_zero, Int.natCast_zero,
      Int.sub_zero]
  have hshift : UnpackedFloat.shiftToTargetExponent .binary64 m e .exact =
      ((⟨m, false, false⟩ : ExtendedMantissa) >>> k, e + k) := by
    have hamount : (e + k - e).toNat = k := by omega
    rw [UnpackedFloat.shiftToTargetExponent, htarget, UnpackedFloat.shiftToExponent, hamount]
    rfl
  have hlow : 2 ^ 52 ≤ m / 2 ^ k := by
    rw [Nat.le_div_iff_mul_le (Nat.two_pow_pos k), ← pow_add, ← hlog]
    exact Nat.log2_self_le hm
  have hhigh : m / 2 ^ k < 2 ^ 53 := by
    rw [Nat.div_lt_iff_lt_mul (Nat.two_pow_pos k), ← pow_add, show 53 + k = m.log2 + 1 by omega]
    exact Nat.lt_log2_self
  obtain ⟨hr₁, hr₂⟩ := roundedMantissa_bounds ((⟨m, false, false⟩ : ExtendedMantissa) >>> k)
  rw [mantissa_shiftRight] at hr₁ hr₂
  obtain ⟨q, f, hq, hf₁, hf₂, hround⟩ :=
    roundWithAccuracy_of_bounds hshift (hlow.trans hr₁) (hr₂.trans hhigh) he
  refine ⟨q, f, hq, hf₁, hf₂, ?_⟩
  intro s
  rw [UnpackedFloat.round, htarget, hdecrease]
  exact hround s

theorem normal_mul_two_pow {m k : Nat} (hm : m ≠ 0) (hlog : 52 = m.log2 + k) :
    Normal (m * 2 ^ k) := by
  refine .of_log2_eq (Nat.mul_ne_zero hm (Nat.two_pow_pos k).ne') ?_
  rw [log2_mul_two_pow hm, hlog]

theorem round_normal {m : Nat} {e : Int} (hm : m ≠ 0) (he : -1022 ≤ m.log2 + e) :
    ∃ (q : Nat) (f : Int) (hq : Normal q), m.log2 + e - 52 ≤ f ∧ f ≤ m.log2 + e - 51 ∧
      ∀ s, UnpackedFloat.round .binary64 s m e = .finite s q f hq.pos := by
  rcases Nat.le_total m.log2 52 with hle | hge
  · obtain ⟨k, hk⟩ := Nat.exists_eq_add_of_le hle
    have hq : Normal (m * 2 ^ k) := normal_mul_two_pow hm hk
    refine ⟨m * 2 ^ k, e - k, hq, by omega, by omega, ?_⟩
    exact round_exact hq (by omega) (by simp : m * 2 ^ k = m * 2 ^ k * 2 ^ 0) (by simp)
  · obtain ⟨k, hk⟩ := Nat.exists_eq_add_of_le hge
    obtain ⟨q, f, hq, hf₁, hf₂, hround⟩ := round_cut hm hk (e := e) (by omega)
    exact ⟨q, f, hq, by omega, by omega, hround⟩

/-! ## Unpacked whole numbers -/

/-- An unpacked value that stands for a whole number. Its exponent, here with 52 added to it, is not
so low that a bit of the mantissa counts for less than one. -/
inductive Stands : UnpackedFloat → Int → Prop
  | zero (s : Sign) : Stands (.zero s) 0
  | finite {s : Sign} {m k n : Nat} (hm : Normal m) (hk : k ≤ 1023)
      (h : m * 2 ^ k = n * 2 ^ 52) : Stands (.finite s m (k - 52) hm.pos) (s.apply n)

theorem Parts.toInt?_finite {negative : Bool} {m : Nat} {e n : Int} :
    (Parts.finite negative m e).toInt? = some n ↔
      ∃ k : Nat, m * 2 ^ e.toNat = k * 2 ^ (-e).toNat ∧ n = if negative then -(k : Int) else k := by
  simp only [Parts.toInt?, Nat.shiftLeft_eq, Nat.one_mul, Nat.shiftRight_eq_div_pow]
  split
  · next he =>
    have hneg : (-e).toNat = 0 := by omega
    simp [hneg, eq_comm]
  · next he =>
    have hpos : e.toNat = 0 := by omega
    have htwo := Nat.two_pow_pos (-e).toNat
    rw [hpos, pow_zero, mul_one]
    constructor
    · intro h
      split at h
      · next hmod =>
        refine ⟨m / 2 ^ (-e).toNat, ?_, (Option.some.inj h).symm⟩
        exact (Nat.div_mul_cancel (Nat.dvd_of_mod_eq_zero hmod)).symm
      · cases h
    · intro ⟨k, hk, hn⟩
      rw [hk, if_pos (Nat.mul_mod_left ..), Nat.mul_div_cancel _ htwo, hn]

theorem scaled_eq_iff {m n k : Nat} :
    m * 2 ^ ((k : Int) - 52).toNat = n * 2 ^ (-((k : Int) - 52)).toNat ↔
      m * 2 ^ k = n * 2 ^ 52 := by
  rcases Nat.le_total k 52 with hk | hk
  · obtain ⟨j, hj⟩ := Nat.exists_eq_add_of_le hk
    have h₁ : ((k : Int) - 52).toNat = 0 := by omega
    have h₂ : (-((k : Int) - 52)).toNat = j := by omega
    rw [h₁, h₂, hj, pow_zero, mul_one, Nat.add_comm, pow_add, ← mul_assoc,
      Nat.mul_left_inj (Nat.two_pow_pos k).ne']
  · obtain ⟨j, rfl⟩ := Nat.exists_eq_add_of_le hk
    have h₁ : (((52 + j : Nat) : Int) - 52).toNat = j := by omega
    have h₂ : (-(((52 + j : Nat) : Int) - 52)).toNat = 0 := by omega
    rw [h₁, h₂, pow_zero, mul_one, Nat.add_comm, pow_add, ← mul_assoc,
      Nat.mul_left_inj (Nat.two_pow_pos 52).ne']

variable {u v : UnpackedFloat} {n k : Int}

theorem Stands.toInt?_ofUnpacked (h : Stands u n) : (Parts.ofUnpacked u).toInt? = some n := by
  cases h with
  | zero s =>
    refine Parts.toInt?_finite.2 ⟨0, ?_, by simp⟩
    rw [Nat.zero_mul, Nat.zero_mul]
  | @finite s m k n hm hk h =>
    exact Parts.toInt?_finite.2 ⟨n, scaled_eq_iff.2 h, by cases s <;> rfl⟩

theorem stands_of_toInt? {x : Float} (h : toInt? x = some n) : Stands x.toModel.unpack n := by
  rw [toInt?, parts_eq] at h
  cases hu : x.toModel.unpack with
  | notANumber | infinity s =>
    rw [hu] at h
    cases h
  | zero s =>
    rw [hu] at h
    obtain ⟨k, hk, rfl⟩ := Parts.toInt?_finite.1 h
    rw [Nat.zero_mul] at hk
    obtain rfl : k = 0 := (Nat.mul_eq_zero.1 hk.symm).resolve_right (Nat.two_pow_pos _).ne'
    simpa using Stands.zero s
  | finite s m e hm =>
    rw [hu] at h
    obtain ⟨hhigh, hmax, hnormal⟩ := unpack_finite hu
    obtain ⟨n, hn, rfl⟩ := Parts.toInt?_finite.1 h
    -- an exponent below -52 would ask for a mantissa of more bits
    have he : -52 ≤ e := by
      by_contra he
      have h₁ : e.toNat = 0 := by omega
      have hn0 : n ≠ 0 := by
        rintro rfl
        rw [h₁, Nat.zero_mul] at hn
        omega
      have hpow : 2 ^ 53 ≤ 2 ^ (-e).toNat := Nat.pow_le_pow_right (by decide) (by omega)
      have hle : 2 ^ (-e).toNat ≤ n * 2 ^ (-e).toNat :=
        Nat.le_mul_of_pos_left _ (Nat.pos_of_ne_zero hn0)
      rw [h₁] at hn
      omega
    obtain ⟨k, hk⟩ := Int.eq_ofNat_of_zero_le (by omega : 0 ≤ e + 52)
    obtain rfl : e = k - 52 := by omega
    have hs : (if (s == Sign.negative) = true then -(n : Int) else n) = s.apply n := by
      cases s <;> rfl
    rw [hs]
    exact .finite (hnormal (by omega)) (by omega) (scaled_eq_iff.1 hn)

theorem toInt?_eq_some_iff {x : Float} : toInt? x = some n ↔ Stands x.toModel.unpack n := by
  constructor
  · exact stands_of_toInt?
  · intro h
    rw [toInt?, parts_eq]
    exact h.toInt?_ofUnpacked

theorem Stands.unpack_pack (h : Stands u n) : (Float.Model.pack u).unpack = u := by
  cases h with
  | zero s => exact unpack_pack_zero s
  | @finite s m k n hm hk h =>
    exact Binary64.unpack_pack s hm (by omega) (by omega)

theorem exists_normal {n : Nat} (hn : 0 < n) (h : n ≤ 2 ^ 53) :
    ∃ q k : Nat, Normal q ∧ k ≤ 53 ∧ q * 2 ^ k = n * 2 ^ 52 := by
  rcases Nat.lt_or_eq_of_le h with hlt | rfl
  · have hlog : n.log2 < 53 := (Nat.log2_lt hn.ne').2 hlt
    obtain ⟨j, hj⟩ := Nat.exists_eq_add_of_le (Nat.le_of_lt_succ hlog)
    refine ⟨n * 2 ^ j, n.log2, normal_mul_two_pow hn.ne' hj, by omega, ?_⟩
    rw [mul_assoc, ← pow_add, hj, Nat.add_comm]
  · exact ⟨2 ^ 52, 53, ⟨le_rfl, by decide⟩, le_rfl, by decide⟩

theorem stands_round {m k n : Nat} (hn : 0 < n) (hle : n ≤ 2 ^ 53) (h : m * 2 ^ k = n * 2 ^ 52)
    (s : Sign) : Stands (UnpackedFloat.round .binary64 s m (k - 52)) (s.apply n) := by
  obtain ⟨q, j, hq, hj, heq⟩ := exists_normal hn hle
  rw [round_exact hq (by omega : (-1074 : Int) ≤ j - 52) (h.trans heq.symm) (by omega) s]
  exact .finite hq (by omega) heq

/-! ## Words -/

theorem toModel_toFloat (n : UInt64) (hn : 0 < n.toNat) : n.toFloat.toModel =
    Float.Model.pack (UnpackedFloat.round .binary64 .positive n.toNat 0) := by
  change Float.Model.pack (UnpackedFloat.normalize .binary64 n.toNat 0 .positive) = _
  have hcompare : compare (n.toNat : Int) 0 = .gt := by
    rw [Int.compare_eq_gt]
    omega
  rw [UnpackedFloat.normalize, hcompare]
  rfl

theorem toInt?_of_pack {x : Float} (hx : x.toModel = Float.Model.pack u) (h : Stands u n) :
    toInt? x = some n := by
  rw [toInt?_eq_some_iff, hx, h.unpack_pack]
  exact h

theorem isFinite_of_toInt? {x : Float} (hx : toInt? x = some n) : x.isFinite = true := by
  have hstands := stands_of_toInt? hx
  change x.toModel.unpack.isFinite = true
  cases hu : x.toModel.unpack with
  | notANumber | infinity s =>
    rw [hu] at hstands
    cases hstands
  | zero s => rfl
  | finite s m e hm => rfl

theorem toInt?_toFloat {n : UInt64} (h : n.toNat ≤ 2 ^ 53) :
    toInt? n.toFloat = some (n.toNat : Int) := by
  rcases Nat.eq_zero_or_pos n.toNat with hn | hn
  · obtain rfl : n = 0 := UInt64.toNat_inj.1 hn
    decide +kernel
  · exact toInt?_of_pack (toModel_toFloat n hn) (stands_round (k := 52) hn h rfl .positive)

theorem toInt?_toFloat_of_le {n : UInt64} (h : 2 ^ 53 ≤ n.toNat) :
    ∃ m : Nat, 2 ^ 53 ≤ m ∧ toInt? n.toFloat = some (m : Int) := by
  have hn : n.toNat ≠ 0 := by omega
  have hlog : 53 ≤ n.toNat.log2 := (Nat.le_log2 hn).2 h
  have hlog' : n.toNat.log2 < 64 := (Nat.log2_lt hn).2 n.toNat_lt
  obtain ⟨m, f, hm, hf, hf', hround⟩ := round_normal hn (e := 0) (by omega)
  obtain ⟨k, rfl⟩ := Int.eq_ofNat_of_zero_le (by omega : 0 ≤ f)
  refine ⟨m * 2 ^ k, ?_, ?_⟩
  · calc
      2 ^ 53 = 2 ^ 52 * 2 ^ 1 := by decide
      _ ≤ m * 2 ^ k := Nat.mul_le_mul hm.low (Nat.pow_le_pow_right (by decide) (by omega))
  · have hstands : Stands (.finite .positive m ((k + 52 : Nat) - 52) hm.pos) (m * 2 ^ k : Nat) :=
      .finite hm (by omega) (by rw [pow_add, ← mul_assoc])
    have hk : ((k + 52 : Nat) : Int) - 52 = k := by omega
    rw [hk, ← hround] at hstands
    exact toInt?_of_pack (toModel_toFloat n (Nat.pos_of_ne_zero hn)) hstands

theorem isFinite_toFloat (n : UInt64) : n.toFloat.isFinite = true := by
  rcases Nat.le_total n.toNat (2 ^ 53) with h | h
  · exact isFinite_of_toInt? (toInt?_toFloat h)
  · obtain ⟨m, _, hm⟩ := toInt?_toFloat_of_le h
    exact isFinite_of_toInt? hm

end ArithmeticGame.Binary64
