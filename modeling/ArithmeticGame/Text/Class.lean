/-!
# Classes of characters

Blanks may stand anywhere in an expression, and a text made of nothing else counts as empty. Larger
classes are kept as the ranges of their code points, ascending and apart. A search then ends at the
first range that starts too high.
-/
namespace ArithmeticGame.Text

/-- The code points with the property White_Space. -/
def isBlank (c : Char) : Bool :=
  let n := c.toNat
  (9 ≤ n && n ≤ 13) || n == 0x20 || n == 0x85 || n == 0xA0 || n == 0x1680 ||
    (0x2000 ≤ n && n ≤ 0x200A) || n == 0x2028 || n == 0x2029 || n == 0x202F || n == 0x205F ||
    n == 0x3000

def trim (text : List Char) : List Char :=
  ((text.dropWhile isBlank).reverse.dropWhile isBlank).reverse

/-- Whether a code point lies in one of some ascending ranges. -/
def inRanges (n : Nat) : List (Nat × Nat) → Bool
  | [] => false
  | (low, high) :: ranges => low ≤ n && (n ≤ high || inRanges n ranges)

/-- Whether ranges ascend, the first one starting no lower than `bottom`. -/
def ascendFrom (bottom : Nat) : List (Nat × Nat) → Bool
  | [] => true
  | (low, high) :: ranges => bottom ≤ low && low ≤ high && ascendFrom (high + 1) ranges

theorem inRanges_of_lt {n bottom : Nat} {ranges : List (Nat × Nat)}
    (h : ascendFrom bottom ranges = true) (hn : n < bottom) : inRanges n ranges = false := by
  cases ranges with
  | nil => rfl
  | cons range ranges =>
    simp only [ascendFrom, Bool.and_eq_true, decide_eq_true_eq] at h
    have hlow : ¬range.1 ≤ n := by omega
    simp [inRanges, hlow]

end ArithmeticGame.Text
