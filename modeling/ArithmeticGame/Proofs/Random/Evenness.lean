import ArithmeticGame.Proofs.Random.Range
import Mathlib.Algebra.Order.Floor.Div
import Mathlib.Logic.Function.Iterate
import Mathlib.Order.Interval.Finset.Nat
/-!
# Draws without bias

The words that a draw below `n` accepts for one result are those whose product with `n` falls into a
stretch of `n <<< leadingZeros n` numbers. Every such stretch holds as many multiples of `n`, so
that equally many words lead to each result.
-/
namespace ArithmeticGame

namespace WordSize

variable (size : WordSize) {n i word : Nat}

theorem words_eq : size.words = 2 ^ size.bits := by cases size <;> rfl

/-- The zone is the greatest of its form that fits in a word. -/
theorem mul_two_pow_le (hn : n < size.words) : n * 2 ^ size.leadingZeros n ≤ size.words := by
  rw [words_eq] at hn ⊢
  by_cases hzero : n = 0
  · simp [hzero]
  · have hlog : n.log2 < size.bits := (Nat.log2_lt hzero).2 hn
    calc n * 2 ^ size.leadingZeros n
        ≤ 2 ^ (n.log2 + 1) * 2 ^ size.leadingZeros n :=
          Nat.mul_le_mul_right _ Nat.lt_log2_self.le
      _ = 2 ^ size.bits := by rw [← pow_add, leadingZeros, Nat.add_sub_cancel' hlog]

theorem accepts_iff (hn : 0 < n) :
    size.accepts n word = true ↔ word * n % size.words < n * 2 ^ size.leadingZeros n := by
  have hpos : 0 < n * 2 ^ size.leadingZeros n := Nat.mul_pos hn (Nat.two_pow_pos _)
  rw [accepts, zone, Nat.shiftLeft_eq, decide_eq_true_eq]
  omega

/-- A word is accepted for a result just if its product is in the stretch of that result. -/
theorem accepts_and_select_iff (hn : 0 < n) (hw : n < size.words) :
    size.accepts n word = true ∧ size.select n word = i ↔
      i * size.words ≤ word * n ∧ word * n < i * size.words + n * 2 ^ size.leadingZeros n := by
  have hzone := size.mul_two_pow_le hw
  have hparts := Nat.div_add_mod' (word * n) size.words
  rw [size.accepts_iff hn, select]
  constructor
  · rintro ⟨hmod, rfl⟩
    omega
  · rintro ⟨hlow, hhigh⟩
    have hi : word * n / size.words = i :=
      Nat.div_eq_of_lt_le hlow (by rw [Nat.add_mul, Nat.one_mul]; omega)
    rw [hi] at hparts ⊢
    exact ⟨by omega, rfl⟩

theorem mem_Ico_iff (hn : 0 < n) (hw : n < size.words) :
    word ∈ Finset.Ico (i * size.words ⌈/⌉ n)
        (i * size.words ⌈/⌉ n + 2 ^ size.leadingZeros n) ↔
      size.accepts n word = true ∧ size.select n word = i := by
  rw [size.accepts_and_select_iff hn hw, Finset.mem_Ico, ceilDiv_le_iff_le_mul hn, Nat.mul_comm n]
  refine and_congr_right fun _ => ?_
  by_cases hsmall : word < 2 ^ size.leadingZeros n
  · have hprod : word * n < n * 2 ^ size.leadingZeros n := by
      rw [Nat.mul_comm]
      exact Nat.mul_lt_mul_of_pos_left hsmall hn
    omega
  · obtain ⟨rest, rfl⟩ := Nat.exists_eq_add_of_le' (Nat.le_of_not_lt hsmall)
    rw [Nat.add_lt_add_iff_right, ← not_le, ceilDiv_le_iff_le_mul hn, not_le, Nat.add_mul,
      Nat.mul_comm (2 ^ size.leadingZeros n), Nat.add_lt_add_iff_right, Nat.mul_comm n]

theorem lt_words_of_select (hn : 0 < n) (hw : n < size.words) (hi : i < n)
    (h : size.accepts n word = true ∧ size.select n word = i) : word < size.words := by
  have hzone := size.mul_two_pow_le hw
  have hhigh := ((size.accepts_and_select_iff hn hw).1 h).2
  have hnext : (i + 1) * size.words ≤ n * size.words := Nat.mul_le_mul_right _ hi
  rw [Nat.add_mul, Nat.one_mul] at hnext
  refine Nat.lt_of_mul_lt_mul_right (a := n) ?_
  rw [Nat.mul_comm size.words]
  omega

theorem card_accepts_and_select (hw : n < size.words) (hi : i < n) :
    ((Finset.range size.words).filter fun word =>
      size.accepts n word = true ∧ size.select n word = i).card = 2 ^ size.leadingZeros n := by
  have hn : 0 < n := Nat.zero_lt_of_lt hi
  have hwords : ((Finset.range size.words).filter fun word =>
      size.accepts n word = true ∧ size.select n word = i) =
      Finset.Ico (i * size.words ⌈/⌉ n) (i * size.words ⌈/⌉ n + 2 ^ size.leadingZeros n) := by
    ext word
    rw [Finset.mem_filter, Finset.mem_range, size.mem_Ico_iff hn hw]
    exact and_iff_right_of_imp (size.lt_words_of_select hn hw hi)
  rw [hwords, Nat.card_Ico, Nat.add_sub_cancel_left]

end WordSize

/-- A draw below `n` that decides by one word of a size: some words are passed over, and of the
others equally many lead to each of the results. -/
structure Evenly {α : Type} [DecidableEq α] (size : WordSize) (n : Nat) (leads? : Nat → Option α)
    (results : α → Prop) : Prop where
  passes_iff : ∀ word < size.words,
    leads? word = none ↔ (n <<< size.leadingZeros n) - 1 < word * n % 2 ^ size.bits
  card_eq : ∀ result, results result →
    ((Finset.range size.words).filter fun word => leads? word = some result).card =
      2 ^ size.leadingZeros n
  only : ∀ word < size.words, ∀ result, leads? word = some result → results result

theorem evenly_of_index {α : Type} [DecidableEq α] (size : WordSize) {n : Nat}
    {leads? : Nat → Option α} {results : α → Prop} (hw : n < size.words) (index : α → Nat)
    (hindex : ∀ result, results result → index result < n)
    (hpasses : ∀ word < size.words, leads? word = none ↔ size.accepts n word = false)
    (hleads : ∀ word < size.words, ∀ result, leads? word = some result ↔
      results result ∧ size.accepts n word = true ∧ size.select n word = index result) :
    Evenly size n leads? results where
  passes_iff word hword := by
    rw [hpasses word hword, WordSize.accepts, WordSize.zone, WordSize.words_eq,
      decide_eq_false_iff_not, Nat.not_le]
  card_eq result hresult := by
    rw [← size.card_accepts_and_select hw (hindex result hresult)]
    refine congrArg Finset.card (Finset.filter_congr fun word hword => ?_)
    rw [hleads word (Finset.mem_range.1 hword)]
    exact and_iff_right hresult
  only word hword result h := ((hleads word hword result).1 h).1

namespace Generator

def skip (size : WordSize) (count : Nat) (g : Generator) : Generator :=
  (fun g => (g.next size).2)^[count] g

def word (size : WordSize) (count : Nat) (g : Generator) : Nat := ((g.skip size count).next size).1

theorem skip_succ (size : WordSize) (count : Nat) (g : Generator) :
    g.skip size (count + 1) = (g.next size).2.skip size count :=
  Function.iterate_succ_apply ..

theorem word_succ (size : WordSize) (count : Nat) (g : Generator) :
    g.word size (count + 1) = (g.next size).2.word size count := by
  rw [word, skip_succ, word]

theorem word_lt (size : WordSize) (count : Nat) (g : Generator) : g.word size count < size.words :=
  next_lt size _

theorem search_of_first {size : WordSize} {n limit tries : Nat} {g : Generator}
    (hlimit : tries < limit) (hpass : ∀ i < tries, size.accepts n (g.word size i) = false)
    (haccept : size.accepts n (g.word size tries) = true) :
    g.search size n limit = (size.select n (g.word size tries), g.skip size (tries + 1)) := by
  induction tries generalizing g limit with
  | zero =>
    obtain ⟨limit, rfl⟩ := Nat.exists_eq_add_of_le' hlimit
    have hfirst : size.accepts n (g.next size).1 = true := haccept
    simp only [search, hfirst, if_true]
    rfl
  | succ tries ih =>
    obtain ⟨limit, rfl⟩ := Nat.exists_eq_add_of_le' (Nat.one_le_of_lt hlimit)
    have hfirst : size.accepts n (g.next size).1 = false := hpass 0 (Nat.succ_pos tries)
    simp only [search, hfirst, Bool.false_eq_true, if_false]
    rw [word_succ, skip_succ]
    refine ih (Nat.lt_of_succ_lt_succ hlimit) (fun i hi => ?_) ?_
    · rw [← word_succ]
      exact hpass (i + 1) (Nat.succ_lt_succ hi)
    · rw [← word_succ]
      exact haccept

/-- A draw is decided by the first word that it accepts, and takes no word behind it. -/
theorem below_of_first {size : WordSize} {n tries : Nat} {g : Generator} (hlimit : tries < period)
    (hpass : ∀ i < tries, size.accepts n (g.word size i) = false)
    (haccept : size.accepts n (g.word size tries) = true) :
    g.below size n = (size.select n (g.word size tries), g.skip size (tries + 1)) := by
  rw [below, search_of_first hlimit hpass haccept]

end Generator
end ArithmeticGame
