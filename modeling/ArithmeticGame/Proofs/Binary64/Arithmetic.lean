import ArithmeticGame.Proofs.Binary64.Exact
/-!
# Arithmetic of whole numbers

Sums, differences and products of whole numbers are exact as long as they do not go beyond `2 ^ 53`.
A difference that goes beyond is rounded, but never to a value near zero, so whole numbers that lie
within a billionth of each other are the same.
-/
namespace ArithmeticGame.Binary64
open Float.Model (Format UnpackedFloat)
open Float.Model.UnpackedFloat (Sign)

variable {u v : UnpackedFloat} {a b n : Int}

/-! ## Signs -/

theorem apply_apply (s : Sign) (n : Int) : s.apply (s.apply n) = n := by
  cases s
  · exact Int.neg_neg n
  · rfl

theorem apply_mul_right (s : Sign) (n k : Int) : s.apply n * k = s.apply (n * k) := by
  cases s
  · exact Int.neg_mul n k
  · rfl

theorem natAbs_apply (s : Sign) (n : Nat) : (s.apply n).natAbs = n := by
  cases s
  · exact Int.natAbs_neg n
  · rfl

theorem apply_neg (s : Sign) (n : Int) : (-s).apply n = -s.apply n := by
  cases s
  · exact (Int.neg_neg n).symm
  · rfl

theorem apply_mul (s t : Sign) (m n : Int) : (s * t).apply (m * n) = s.apply m * t.apply n := by
  cases s <;> cases t
  · exact (Int.neg_mul_neg m n).symm
  · exact (Int.neg_mul m n).symm
  · exact (Int.mul_neg m n).symm
  · rfl

theorem sub_eq_add_neg (spec : Format) (u v : UnpackedFloat) :
    UnpackedFloat.sub spec u v = UnpackedFloat.add spec u v.neg := by
  cases u with
  | notANumber => rfl
  | infinity s => cases v <;> rfl
  | zero s => cases v <;> rfl
  | finite s m e hm =>
    cases v with
    | finite t m' e' hm' =>
      simp only [UnpackedFloat.sub, UnpackedFloat.add, UnpackedFloat.neg, apply_neg, Int.sub_eq_add_neg]
    | _ => rfl

theorem Stands.neg (h : Stands u n) : Stands u.neg (-n) := by
  cases h with
  | zero s => exact .zero (-s)
  | @finite s m k n hm hk h =>
    rw [← apply_neg]
    exact .finite hm hk h

/-! ## Sums -/

theorem exists_normalize_eq {m : Int} (hm : m ≠ 0) :
    ∃ (s : Sign) (m' : Nat), m' ≠ 0 ∧ m = s.apply m' ∧ ∀ e zero,
      UnpackedFloat.normalize .binary64 m e zero = UnpackedFloat.round .binary64 s m' e := by
  rcases Int.lt_or_gt_of_ne hm with hneg | hpos
  · have hm' : ((-m).toNat : Int) = -m := Int.toNat_of_nonneg (by omega)
    refine ⟨.negative, (-m).toNat, by omega, ?_, ?_⟩
    · rw [hm', Sign.apply, Int.neg_neg]
    · intro e zero
      rw [UnpackedFloat.normalize, Int.compare_eq_lt.2 hneg]
  · refine ⟨.positive, m.toNat, by omega, (Int.toNat_of_nonneg hpos.le).symm, ?_⟩
    intro e zero
    rw [UnpackedFloat.normalize, Int.compare_eq_gt.2 hpos]

theorem exists_normalize_scaled_eq {m : Int} {k : Nat} (h : m * 2 ^ k = n * 2 ^ 52) (hn : n ≠ 0) :
    ∃ (s : Sign) (m' n' : Nat), 0 < n' ∧ n = s.apply n' ∧ m' * 2 ^ k = n' * 2 ^ 52 ∧ ∀ e zero,
      UnpackedFloat.normalize .binary64 m e zero = UnpackedFloat.round .binary64 s m' e := by
  have hm : m ≠ 0 := by
    rintro rfl
    rw [Int.zero_mul] at h
    omega
  obtain ⟨s, m', hm', rfl, hround⟩ := exists_normalize_eq hm
  have hscaled : (m' : Int) * 2 ^ k = s.apply n * 2 ^ 52 := by
    rw [apply_mul_right, ← h, apply_mul_right, apply_apply]
  have hpos : (0 : Int) < m' * 2 ^ k := by positivity
  obtain ⟨n', hn'⟩ := Int.eq_ofNat_of_zero_le (by omega : 0 ≤ s.apply n)
  rw [hn'] at hscaled
  refine ⟨s, m', n', by omega, by rw [← hn', apply_apply], by exact_mod_cast hscaled, hround⟩

theorem Stands.normalize {m : Int} {k : Nat} (h : m * 2 ^ k = n * 2 ^ 52)
    (hn : n.natAbs ≤ 2 ^ 53) (zero : Sign) :
    Stands (UnpackedFloat.normalize .binary64 m (k - 52) zero) n := by
  by_cases hn0 : n = 0
  · subst hn0
    have hm : m = 0 := by simpa using h
    rw [hm]
    exact .zero zero
  · obtain ⟨s, m', n', hn', rfl, hscaled, hround⟩ := exists_normalize_scaled_eq h hn0
    rw [hround]
    exact stands_round hn' (by rwa [natAbs_apply] at hn) hscaled s

theorem apply_decreaseExponent (s : Sign) {m k n j : Nat} (h : m * 2 ^ k = n * 2 ^ 52)
    (hj : j ≤ k) :
    s.apply (UnpackedFloat.decreaseExponent m (k - 52) (j - 52)).1 * 2 ^ j =
      s.apply n * 2 ^ 52 := by
  have hshift : ((k : Int) - 52 - (j - 52)).toNat = k - j := by omega
  have hscaled : m * 2 ^ (k - j) * 2 ^ j = n * 2 ^ 52 := by
    rw [mul_assoc, ← pow_add, Nat.sub_add_cancel hj, h]
  rw [UnpackedFloat.decreaseExponent, hshift, Nat.shiftLeft_eq, apply_mul_right, apply_mul_right]
  exact_mod_cast congrArg (fun m : Nat => s.apply m) hscaled

/-- A sum that is not plain is aligned at the lesser exponent. -/
theorem Stands.add_cases (hu : Stands u a) (hv : Stands v b) :
    Stands (UnpackedFloat.add .binary64 u v) (a + b) ∨
      ∃ (m : Int) (k : Nat), m * 2 ^ k = (a + b) * 2 ^ 52 ∧
        UnpackedFloat.add .binary64 u v =
          UnpackedFloat.normalize .binary64 m (k - 52) .positive := by
  cases hu with
  | zero s =>
    left
    cases hv with
    | zero t =>
      cases s <;> cases t
      all_goals exact .zero _
    | @finite t m k n hm hk h =>
      rw [Int.zero_add]
      exact .finite hm hk h
  | @finite s m k n hm hk h =>
    cases hv with
    | zero t =>
      left
      rw [Int.add_zero]
      exact .finite hm hk h
    | @finite t m' k' n' hm' hk' h' =>
      right
      have hmin : min ((k : Int) - 52) (k' - 52) = (min k k' : Nat) - 52 := by omega
      refine ⟨_, min k k', ?_, by rw [UnpackedFloat.add, hmin]⟩
      rw [Int.add_mul, Int.add_mul, apply_decreaseExponent s h (Nat.min_le_left ..),
        apply_decreaseExponent t h' (Nat.min_le_right ..)]

theorem Stands.add (hu : Stands u a) (hv : Stands v b) (hn : (a + b).natAbs ≤ 2 ^ 53) :
    Stands (UnpackedFloat.add .binary64 u v) (a + b) := by
  obtain h | ⟨m, k, h, heq⟩ := hu.add_cases hv
  · exact h
  · rw [heq]
    exact .normalize h hn .positive

/-- A sum other than zero has a mantissa of 53 bits, and none of them counts for less than
`2 ^ (-52)`. -/
theorem Stands.add_of_ne (hu : Stands u a) (hv : Stands v b) (hne : a + b ≠ 0)
    (hn : (a + b).natAbs ≤ 2 ^ 54) :
    ∃ (s : Sign) (m : Nat) (e : Int) (hm : Normal m), -52 ≤ e ∧ e ≤ 971 ∧
      UnpackedFloat.add .binary64 u v = .finite s m e hm.pos := by
  obtain h | ⟨m, k, h, heq⟩ := hu.add_cases hv
  · generalize UnpackedFloat.add .binary64 u v = w at h ⊢
    generalize a + b = n at h hne
    cases h with
    | zero => exact absurd rfl hne
    | @finite s m k n hm hk h =>
      exact ⟨s, m, k - 52, hm, by omega, by omega, rfl⟩
  · obtain ⟨s, m', n', hn', hs, hscaled, hround⟩ := exists_normalize_scaled_eq h hne
    rw [hs, natAbs_apply] at hn
    have hm' : m' ≠ 0 := by
      rintro rfl
      omega
    have hlog : m'.log2 + k = n'.log2 + 52 := by
      rw [← log2_mul_two_pow hm', hscaled, log2_mul_two_pow hn'.ne']
    have hlog' : n'.log2 < 55 := (Nat.log2_lt hn'.ne').2 (by omega)
    obtain ⟨q, f, hq, hf, hf', hround'⟩ := round_normal hm' (e := k - 52) (by omega)
    exact ⟨s, q, f, hq, by omega, by omega, by rw [heq, hround, hround']⟩

/-! ## Products -/

/-- A product of two mantissas has too many bits, but the last ones are zero. -/
theorem stands_roundWithAccuracy {m k n : Nat} (hm : 2 ^ 52 ≤ m) (hn : 0 < n) (hle : n ≤ 2 ^ 53)
    (h : m * 2 ^ k = n * 2 ^ 52 * 2 ^ 52) (s : Sign) :
    Stands (UnpackedFloat.roundWithAccuracy .binary64 s m (k - 52 - 52) .exact) (s.apply n) := by
  obtain ⟨q, j, hq, hj, heq⟩ := exists_normal hn hle
  rw [← heq, mul_assoc, ← pow_add] at h
  have hkj : k ≤ j + 52 := by
    have hm0 : m ≠ 0 := by omega
    have hlog : 52 ≤ m.log2 := (Nat.le_log2 hm0).2 hm
    have hlog' : m.log2 + k = 52 + (j + 52) := by
      rw [← log2_mul_two_pow hm0, h, log2_mul_two_pow hq.pos.ne', hq.log2_eq]
    omega
  obtain ⟨i, hi⟩ := Nat.exists_eq_add_of_le hkj
  obtain rfl : m = q * 2 ^ i := by
    rw [hi, Nat.add_comm k i, pow_add, ← mul_assoc] at h
    exact Nat.eq_of_mul_eq_mul_right (Nat.two_pow_pos k) h
  have he : (k : Int) - 52 - 52 = j - 52 - i := by omega
  rw [he, roundWithAccuracy_exact hq (by omega) i s]
  exact .finite hq (by omega) heq

theorem Stands.mul (hu : Stands u a) (hv : Stands v b) (hn : (a * b).natAbs ≤ 2 ^ 53) :
    Stands (UnpackedFloat.mul .binary64 u v) (a * b) := by
  cases hu with
  | zero s =>
    rw [Int.zero_mul]
    cases hv with
    | zero t => exact .zero (s * t)
    | @finite t m k n hm hk h => exact .zero (s * t)
  | @finite s m k n hm hk h =>
    cases hv with
    | zero t =>
      rw [Int.mul_zero]
      exact .zero (s * t)
    | @finite t m' k' n' hm' hk' h' =>
      rw [← apply_mul, ← Int.natCast_mul] at hn ⊢
      rw [natAbs_apply] at hn
      have hscaled : m * m' * 2 ^ (k + k') = n * n' * 2 ^ 52 * 2 ^ 52 := by
        rw [pow_add, mul_mul_mul_comm, h, h']
        ring
      have hpos : 0 < m * m' * 2 ^ (k + k') :=
        Nat.mul_pos (Nat.mul_pos hm.pos hm'.pos) (Nat.two_pow_pos _)
      have he : (k : Int) - 52 + (k' - 52) = (k + k' : Nat) - 52 - 52 := by omega
      rw [UnpackedFloat.mul, he]
      exact stands_roundWithAccuracy (hm.low.trans (Nat.le_mul_of_pos_right m hm'.pos)) (by omega) hn
        hscaled (s * t)

/-! ## Floating point values -/

variable {x y : Float}

theorem toInt?_neg (hx : toInt? x = some a) : toInt? (-x) = some (-a) :=
  toInt?_of_pack rfl (stands_of_toInt? hx).neg

theorem toInt?_add (hx : toInt? x = some a) (hy : toInt? y = some b)
    (hn : (a + b).natAbs ≤ 2 ^ 53) : toInt? (x + y) = some (a + b) :=
  toInt?_of_pack rfl ((stands_of_toInt? hx).add (stands_of_toInt? hy) hn)

theorem toInt?_sub (hx : toInt? x = some a) (hy : toInt? y = some b)
    (hn : (a - b).natAbs ≤ 2 ^ 53) : toInt? (x - y) = some (a - b) := by
  have hstands := (stands_of_toInt? hx).add (stands_of_toInt? hy).neg hn
  rw [← sub_eq_add_neg] at hstands
  exact toInt?_of_pack rfl hstands

theorem toInt?_mul (hx : toInt? x = some a) (hy : toInt? y = some b)
    (hn : (a * b).natAbs ≤ 2 ^ 53) : toInt? (x * y) = some (a * b) :=
  toInt?_of_pack rfl ((stands_of_toInt? hx).mul (stands_of_toInt? hy) hn)

theorem toInt?_ofInt64 {n : Int64} (h : n.toInt.natAbs ≤ 2 ^ 53) :
    toInt? (ofInt64 n) = some n.toInt := by
  have hword : (UInt64.ofNat n.toInt.natAbs).toNat = n.toInt.natAbs := by
    rw [UInt64.toNat_ofNat']
    omega
  have hvalue := toInt?_toFloat (hword.trans_le h)
  rw [hword] at hvalue
  have hlt : n < 0 ↔ n.toInt < 0 := Int64.lt_iff_toInt_lt
  rw [ofInt64]
  split
  · next hneg =>
    rw [hlt] at hneg
    rw [toInt?_neg hvalue]
    congr 1
    omega
  · next hpos =>
    rw [hlt] at hpos
    rw [hvalue]
    congr 1
    omega

theorem exists_zero_of_toInt? (hx : toInt? x = some 0) : ∃ s, x.toModel.unpack = .zero s := by
  have hstands := stands_of_toInt? hx
  generalize x.toModel.unpack = u at hstands ⊢
  generalize hn : (0 : Int) = n at hstands
  cases hstands with
  | zero s => exact ⟨s, rfl⟩
  | @finite s m k n hm hk h =>
    have hn0 : n = 0 := by rw [← natAbs_apply s n, ← hn, Int.natAbs_zero]
    rw [hn0, Nat.zero_mul] at h
    have hpos : 0 < m * 2 ^ k := Nat.mul_pos hm.pos (Nat.two_pow_pos k)
    omega

/-! ## Values that are nearly the same -/

theorem le_iff : x ≤ y ↔ x.toModel.unpack.le y.toModel.unpack = true :=
  ⟨of_decide_eq_true, decide_eq_true⟩

theorem unpack_billionth :
    ∃ m hm, (1e-9 : Float).toModel.unpack = .finite .positive m (-82) hm := by
  have hpack : (1e-9 : Float).toModel =
      Float.Model.pack (.finite .positive 4835703278458517 (-82) (by decide)) := by
    decide +kernel
  rw [hpack]
  exact ⟨_, _, unpack_pack .positive ⟨by decide, by decide⟩ (by decide) (by decide)⟩

theorem abs_le_billionth_of_zero {s : Sign} (h : x.toModel.unpack = .zero s) : x.abs ≤ 1e-9 := by
  obtain ⟨m, hm, hb⟩ := unpack_billionth
  have habs : x.abs.toModel.unpack = .zero .positive := by
    change (Float.Model.pack x.toModel.unpack.abs).unpack = _
    rw [h]
    exact unpack_pack_zero .positive
  rw [le_iff, habs, hb]
  rfl

theorem not_abs_le_billionth {s : Sign} {m : Nat} {e : Int} (hm : Normal m)
    (h : x.toModel.unpack = .finite s m e hm.pos) (hmin : -52 ≤ e) (hmax : e ≤ 971) :
    ¬ x.abs ≤ 1e-9 := by
  obtain ⟨m', hm', hb⟩ := unpack_billionth
  have habs : x.abs.toModel.unpack = .finite .positive m e hm.pos := by
    change (Float.Model.pack x.toModel.unpack.abs).unpack = _
    rw [h]
    exact unpack_pack .positive hm (by omega) hmax
  have hcompare : compare e (-82) = .gt := Int.compare_eq_gt.2 (by omega)
  rw [le_iff, habs, hb, UnpackedFloat.le, UnpackedFloat.compare, hcompare]
  exact Bool.false_ne_true

theorem abs_sub_le_billionth_iff (hx : toInt? x = some a) (hy : toInt? y = some b)
    (ha : a.natAbs ≤ 2 ^ 53) (hb : b.natAbs ≤ 2 ^ 53) : (x - y).abs ≤ 1e-9 ↔ a = b := by
  constructor
  · intro hle
    by_contra hne
    obtain ⟨s, m, e, hm, hmin, hmax, heq⟩ :=
      (stands_of_toInt? hx).add_of_ne (stands_of_toInt? hy).neg (by omega) (by omega)
    have hsub : (x - y).toModel.unpack = .finite s m e hm.pos := by
      change (Float.Model.pack (UnpackedFloat.sub .binary64 _ _)).unpack = _
      rw [sub_eq_add_neg, heq]
      exact unpack_pack s hm (by omega) hmax
    exact not_abs_le_billionth hm hsub hmin hmax hle
  · intro hab
    have hzero : toInt? (x - y) = some 0 := by
      rw [toInt?_sub hx hy (by omega), hab, Int.sub_self]
    obtain ⟨s, hs⟩ := exists_zero_of_toInt? hzero
    exact abs_le_billionth_of_zero hs

end ArithmeticGame.Binary64
