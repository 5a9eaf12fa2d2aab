import ArithmeticGame.Proofs.Random.Range
import ArithmeticGame.Target
/-!
# What a target source supplies

Targets are whole numbers between two bounds, of which there can be as many as there are words. A
draw in words, where the number of targets may wrap around to zero and the sum with the lower bound
beyond the middle, gives the same.
-/
namespace ArithmeticGame.TargetSource

/-- How many targets there are from `low` to `high`. All words together wrap around to zero. -/
def spanWord (low high : Int64) : UInt64 := (high - low).toUInt64 + 1

/-- A draw from `low` to `high` in words that wrap around. -/
def drawWrapped (low high : Int64) (g : Generator) : Int64 × Generator :=
  if spanWord low high = 0 then
    let (word, g) := g.next64
    (word.toInt64, g)
  else
    let (offset, g) := g.below .bits64 (spanWord low high).toNat
    (low + (UInt64.ofNat offset).toInt64, g)

def drawManyWrapped (low high : Int64) : Nat → Generator → List Int64 × Generator
  | 0, g => ([], g)
  | count + 1, g =>
    let (target, g) := drawWrapped low high g
    let (rest, g) := drawManyWrapped low high count g
    (target :: rest, g)

variable {low high : Int64}

/-! ## One draw -/

theorem toNat_sub_toUInt64 (h : low ≤ high) :
    ((high - low).toUInt64.toNat : Int) = high.toInt - low.toInt := by
  have hle := Int64.le_iff_toInt_le.mp h
  have hlow := low.le_toInt
  have hhigh := high.toInt_lt
  have hlt := (high - low).toUInt64.toNat_lt
  have hword : (high - low).toInt = ((high - low).toUInt64.toNat : Int).bmod (2 ^ 64) :=
    BitVec.toInt_eq_toNat_bmod _
  have hmod := congrArg (· % ((2 ^ 64 : Nat) : Int)) (hword.symm.trans (Int64.toInt_sub high low))
  simp only [Int.bmod_emod] at hmod
  omega

theorem toNat_spanWord (h : low ≤ high) :
    (spanWord low high).toNat = (high.toInt - low.toInt + 1).toNat % UInt64.size := by
  have hsub := toNat_sub_toUInt64 h
  rw [spanWord, UInt64.toNat_add, UInt64.toNat_one, UInt64.size]
  omega

theorem draw_eq_drawWrapped (h : low ≤ high) (g : Generator) :
    draw low high g = drawWrapped low high g := by
  have hle := Int64.le_iff_toInt_le.mp h
  have hlow := low.le_toInt
  have hhigh := high.toInt_lt
  have hspan := toNat_spanWord h
  rw [UInt64.size] at hspan
  unfold draw drawWrapped
  by_cases hall : (high.toInt - low.toInt + 1).toNat = UInt64.size
  · have hzero : spanWord low high = 0 := by
      rw [← UInt64.toNat_inj, hspan, hall]
      rfl
    simp only [if_pos hall, if_pos hzero]
    rw [Int64.ofInt_eq_ofNat, ← UInt64.toInt64_ofNat', UInt64.ofNat_toNat]
  · have hpos : spanWord low high ≠ 0 := by
      rw [ne_eq, ← UInt64.toNat_inj, hspan, UInt64.toNat_zero]
      rw [UInt64.size] at hall
      omega
    have hcount : (spanWord low high).toNat = (high.toInt - low.toInt + 1).toNat := by
      rw [UInt64.size] at hall
      omega
    simp only [if_neg hall, if_neg hpos, hcount]
    rw [Int64.ofInt_add, Int64.ofInt_toInt, UInt64.toInt64_ofNat', Int64.ofInt_eq_ofNat]

/-- The sum with the lower bound does not leave the range, even of all words. -/
theorem draw_bounds (h : low ≤ high) (g : Generator) :
    low ≤ (draw low high g).1 ∧ (draw low high g).1 ≤ high := by
  have hle := Int64.le_iff_toInt_le.mp h
  have hlow := low.le_toInt
  have hhigh := high.toInt_lt
  unfold draw
  simp only [Int64.le_iff_toInt_le]
  split
  · next hall =>
    rw [UInt64.size] at hall
    have hword := (Int64.ofInt g.next64.1.toNat).le_toInt
    have hword' := (Int64.ofInt g.next64.1.toNat).toInt_lt
    simp only
    omega
  · have hoffset := Generator.below_lt .bits64
      (n := (high.toInt - low.toInt + 1).toNat) (by omega) g
    simp only
    rw [Int64.toInt_ofInt_of_le (by omega) (by omega)]
    omega

/-! ## Lists of targets -/

theorem drawMany_eq_drawManyWrapped (h : low ≤ high) (count : Nat) (g : Generator) :
    drawMany low high count g = drawManyWrapped low high count g := by
  induction count generalizing g with
  | zero => rfl
  | succ count ih => simp only [drawMany, drawManyWrapped, draw_eq_drawWrapped h, ih]

theorem length_drawMany (low high : Int64) (count : Nat) (g : Generator) :
    (drawMany low high count g).1.length = count := by
  induction count generalizing g with
  | zero => rfl
  | succ count ih => simp [drawMany, ih]

theorem drawMany_bounds (h : low ≤ high) (count : Nat) (g : Generator) :
    ∀ target ∈ (drawMany low high count g).1, low ≤ target ∧ target ≤ high := by
  induction count generalizing g with
  | zero => simp [drawMany]
  | succ count ih =>
    intro target htarget
    simp only [drawMany, List.mem_cons] at htarget
    rcases htarget with rfl | htarget
    · exact draw_bounds h g
    · exact ih _ target htarget

theorem drawMany_take (low high : Int64) {fewer count : Nat} (hle : fewer ≤ count) (g : Generator) :
    (drawMany low high fewer g).1 = (drawMany low high count g).1.take fewer := by
  induction fewer generalizing count g with
  | zero => rfl
  | succ fewer ih =>
    obtain ⟨count, rfl⟩ := Nat.exists_eq_add_of_le' (Nat.one_le_of_lt hle)
    simp only [drawMany, List.take_succ_cons]
    rw [ih (Nat.le_of_succ_le_succ hle)]

theorem min_le_max (a b : Int64) : min a b ≤ max a b := by
  by_cases h : a ≤ b
  · rwa [show min a b = a from if_pos h, show max a b = b from if_pos h]
  · rw [show min a b = b from if_neg h, show max a b = a from if_neg h]
    exact (Int64.le_total a b).resolve_left h

theorem supply_between (a b : Int64) (count : Nat) (g : Generator) :
    (between a b).supply count g = drawMany (min a b) (max a b) count g := by
  unfold between
  by_cases h : a ≤ b
  · rw [dif_pos h, supply, show min a b = a from if_pos h, show max a b = b from if_pos h]
  · rw [dif_neg h, supply, show min a b = b from if_neg h, show max a b = a from if_neg h]

/-- Whatever the bounds and their order, a range supplies a target for each round, all of them
between the bounds, as draws in words do. Fewer rounds get the first of the targets that more rounds
would have got, from a range as well as from a list. -/
theorem supplies_in_range (a b : Int64) (listed : List Int64) (count : Nat) (g : Generator) :
    let targets := ((between a b).supply count g).1
    targets.length = count ∧
    (∀ target ∈ targets, min a b ≤ target ∧ target ≤ max a b) ∧
    (between a b).supply count g = drawManyWrapped (min a b) (max a b) count g ∧
    ∀ fewer ≤ count, ((between a b).supply fewer g).1 = targets.take fewer ∧
      ((TargetSource.listed listed).supply fewer g).1 =
        ((TargetSource.listed listed).supply count g).1.take fewer := by
  intro targets
  have htargets : targets = (drawMany (min a b) (max a b) count g).1 :=
    congrArg Prod.fst (supply_between a b count g)
  have hle := min_le_max a b
  refine ⟨?_, ?_, ?_, ?_⟩
  · rw [htargets, length_drawMany]
  · rw [htargets]
    exact drawMany_bounds hle count g
  · rw [supply_between, drawMany_eq_drawManyWrapped hle]
  · intro fewer hfewer
    constructor
    · rw [htargets, supply_between]
      exact drawMany_take _ _ hfewer g
    · simp only [supply, List.take_take, Nat.min_eq_left hfewer]

/-- All words are targets, and their number wraps around to zero. -/
theorem supplies_in_range_all :
    let source := between Int64.maxValue Int64.minValue
    let target : Int64 := 559256596868823998
    spanWord Int64.minValue Int64.maxValue = 0 ∧
      (source.supply 3 (.ofSeed 7)).1.length = 3 ∧
      target ∈ (source.supply 3 (.ofSeed 7)).1 ∧ Int64.minValue ≤ target ∧
      target ≤ Int64.maxValue ∧
      source.supply 3 (.ofSeed 7) =
        drawManyWrapped Int64.minValue Int64.maxValue 3 (.ofSeed 7) ∧
      1 ≤ 3 ∧ (source.supply 1 (.ofSeed 7)).1 = (source.supply 3 (.ofSeed 7)).1.take 1 ∧
      ((TargetSource.listed [5, 8]).supply 1 (.ofSeed 7)).1 =
        ((TargetSource.listed [5, 8]).supply 3 (.ofSeed 7)).1.take 1 := by
  intro source target
  have hspan : spanWord Int64.minValue Int64.maxValue = 0 := by decide
  have hmem : target ∈ (source.supply 3 (.ofSeed 7)).1 := by decide +kernel
  obtain ⟨hlength, hbounds, hwords, hfewer⟩ :=
    supplies_in_range Int64.maxValue Int64.minValue [5, 8] 3 (.ofSeed 7)
  have hone : 1 ≤ 3 := by decide
  obtain ⟨hlow, hhigh⟩ := hbounds target hmem
  obtain ⟨hrange, hlist⟩ := hfewer 1 hone
  exact ⟨hspan, hlength, hmem, hlow, hhigh, hwords, hone, hrange, hlist⟩

end ArithmeticGame.TargetSource
