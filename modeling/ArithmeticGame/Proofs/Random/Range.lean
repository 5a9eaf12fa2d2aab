import ArithmeticGame.Random.Uniform
/-!
# The range of a draw

A draw below `n` gives a number below `n`, whatever words the generator has to pass over, and takes
at least one word.
-/
namespace ArithmeticGame

theorem WordSize.select_lt (size : WordSize) {n word : Nat} (hn : 0 < n)
    (hw : word < size.words) : size.select n word < n := by
  apply Nat.div_lt_of_lt_mul
  exact Nat.mul_lt_mul_of_pos_right hw hn

namespace Generator

theorem next_lt (size : WordSize) (g : Generator) : (g.next size).1 < size.words := by
  cases size with
  | bits32 => exact g.next32.1.toNat_lt
  | bits64 => exact g.next64.1.toNat_lt

theorem search_lt (size : WordSize) {n : Nat} (hn : 0 < n) (limit : Nat) (g : Generator) :
    (g.search size n limit).1 < n := by
  induction limit generalizing g with
  | zero => exact size.select_lt hn (g.next_lt size)
  | succ limit ih =>
    simp only [search]
    split
    · exact size.select_lt hn (g.next_lt size)
    · exact ih _

theorem below_lt (size : WordSize) {n : Nat} (hn : 0 < n) (g : Generator) :
    (g.below size n).1 < n :=
  search_lt size hn period g

theorem taken_lt_next (size : WordSize) (g : Generator) : g.taken < (g.next size).2.taken := by
  cases size with
  | bits32 => exact Nat.lt_succ_self _
  | bits64 => exact Nat.lt_add_of_pos_right (by decide : 0 < 2)

theorem taken_lt_search (size : WordSize) (n limit : Nat) (g : Generator) :
    g.taken < (g.search size n limit).2.taken := by
  induction limit generalizing g with
  | zero => exact g.taken_lt_next size
  | succ limit ih =>
    simp only [search]
    split
    · exact g.taken_lt_next size
    · exact Nat.lt_trans (g.taken_lt_next size) (ih _)

theorem taken_lt_below (size : WordSize) (n : Nat) (g : Generator) :
    g.taken < (g.below size n).2.taken :=
  taken_lt_search size n period g

end Generator
end ArithmeticGame
