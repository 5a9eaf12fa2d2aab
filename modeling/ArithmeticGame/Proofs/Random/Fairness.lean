import ArithmeticGame.Proofs.Pool.States
import ArithmeticGame.Proofs.Random.Evenness
import ArithmeticGame.Target
import Mathlib.Data.List.Nodup
/-!
# Fair removals and targets

A removal looks at words until one is accepted, and so does the draw of a target. Each available
number, and each target of a range, is what equally many words lead to.
-/
namespace ArithmeticGame

variable {tries : Nat} {g : Generator}

namespace Pool

variable {p : Pool} {value word : Nat}

/-- The available number that a word leads to, if the word is accepted. -/
def chosen? (p : Pool) (word : Nat) : Option Nat :=
  let available := p.values .available
  if WordSize.bits32.accepts available.length word then
    available[WordSize.bits32.select available.length word]?
  else none

theorem nodup_values (p : Pool) (state : Availability) : (p.values state).Nodup := by
  have hall : (p.numbers.map PoolNumber.value).Nodup := by
    rw [p.values_eq]
    exact List.nodup_range'
  exact hall.sublist (List.filter_sublist.map PoolNumber.value)

theorem select_lt_length (hpos : 0 < p.count .available) (hword : word < UInt32.size) :
    WordSize.bits32.select (p.values .available).length word < (p.values .available).length := by
  rw [length_values]
  exact WordSize.bits32.select_lt hpos hword

theorem chosen?_eq_none_iff (hpos : 0 < p.count .available) (hword : word < UInt32.size) :
    p.chosen? word = none ↔ WordSize.bits32.accepts (p.count .available) word = false := by
  have hlt := select_lt_length hpos hword
  simp [chosen?, ← length_values, hlt]

theorem chosen?_eq_some_iff (hpos : 0 < p.count .available) (hword : word < UInt32.size) :
    p.chosen? word = some value ↔ p.state? value = some .available ∧
      WordSize.bits32.accepts (p.count .available) word = true ∧
      WordSize.bits32.select (p.count .available) word = (p.values .available).idxOf value := by
  have hlt := select_lt_length hpos hword
  rw [← length_values, ← mem_values]
  constructor
  · intro h
    simp only [chosen?, Option.ite_none_right_eq_some] at h
    obtain ⟨haccepts, hvalue⟩ := h
    rw [List.getElem?_eq_getElem hlt, Option.some.injEq] at hvalue
    subst hvalue
    exact ⟨List.getElem_mem hlt, haccepts, ((p.nodup_values _).idxOf_getElem _ hlt).symm⟩
  · rintro ⟨hmem, haccepts, hselect⟩
    have hindex : (p.values .available).idxOf value < (p.values .available).length :=
      List.idxOf_lt_length_iff.2 hmem
    simp [chosen?, haccepts, hselect, hindex]

theorem evenly_chosen? (hpos : 0 < p.count .available) (hlt : p.count .available < UInt32.size) :
    Evenly .bits32 (p.count .available) p.chosen? fun value =>
      p.state? value = some .available := by
  refine evenly_of_index .bits32 hlt (p.values .available).idxOf ?_ ?_ ?_
  · intro value hvalue
    rw [← length_values]
    exact List.idxOf_lt_length_iff.2 (mem_values.2 hvalue)
  · exact fun _ hword => chosen?_eq_none_iff hpos hword
  · exact fun _ hword _ => chosen?_eq_some_iff hpos hword

theorem discard_of_chosen? (hpos : 0 < p.count .available)
    (hlt : p.count .available < UInt32.size) (hlimit : tries < Generator.period)
    (hpass : ∀ i < tries, p.chosen? (g.word .bits32 i) = none)
    (hchosen : p.chosen? (g.word .bits32 tries) = some value) :
    p.discard g =
      .ok (value, p.setState value .removed, g.skip .bits32 (tries + 1)) := by
  have hword (i : Nat) : g.word .bits32 i < UInt32.size := g.word_lt .bits32 i
  obtain ⟨hvalue, haccepts, hselect⟩ := (chosen?_eq_some_iff hpos (hword tries)).1 hchosen
  have hbelow := Generator.below_of_first hlimit
    (fun i hi => (chosen?_eq_none_iff hpos (hword i)).1 (hpass i hi)) haccepts
  have hindex : (p.values .available).idxOf value < (p.values .available).length :=
    List.idxOf_lt_length_iff.2 (mem_values.2 hvalue)
  have hne : p.values .available ≠ [] := List.ne_nil_of_mem (mem_values.2 hvalue)
  simp only [discard, length_values, if_pos hlt, hbelow, hselect]
  simp [hne, discardAt, hindex]

end Pool

namespace TargetSource

variable {low high target : Int64} {word : Nat}

/-- How many targets there are from `low` to `high`. -/
def span (low high : Int64) : Nat := (high.toInt - low.toInt + 1).toNat

/-- The target from `low` to `high` that a word leads to, if the word is accepted. -/
def given? (low high : Int64) (word : Nat) : Option Int64 :=
  if WordSize.bits64.accepts (span low high) word then
    some (Int64.ofInt (low.toInt + WordSize.bits64.select (span low high) word))
  else none

theorem toInt_add_span (hle : low ≤ high) : low.toInt + span low high = high.toInt + 1 := by
  have hle := Int64.le_iff_toInt_le.1 hle
  unfold span
  omega

theorem given?_eq_none_iff :
    given? low high word = none ↔ WordSize.bits64.accepts (span low high) word = false := by
  simp [given?]

theorem span_lt (hle : low ≤ high) (hall : ¬(low = Int64.minValue ∧ high = Int64.maxValue)) :
    0 < span low high ∧ span low high < UInt64.size := by
  have hspan := toInt_add_span hle
  have hle := Int64.le_iff_toInt_le.1 hle
  have hlow := low.le_toInt
  have hhigh := high.toInt_lt
  rw [← Int64.toInt_inj, ← Int64.toInt_inj, Int64.toInt_minValue, Int64.toInt_maxValue] at hall
  unfold UInt64.size
  omega

theorem given?_eq_some_iff (hle : low ≤ high) (hword : word < UInt64.size) :
    given? low high word = some target ↔ (low ≤ target ∧ target ≤ high) ∧
      WordSize.bits64.accepts (span low high) word = true ∧
      WordSize.bits64.select (span low high) word = (target.toInt - low.toInt).toNat := by
  have hspan := toInt_add_span hle
  have hle := Int64.le_iff_toInt_le.1 hle
  have hlt := WordSize.bits64.select_lt (n := span low high) (by omega) hword
  have hlow := low.le_toInt
  have hhigh := high.toInt_lt
  have hsum : (Int64.ofInt (low.toInt + WordSize.bits64.select (span low high) word)).toInt =
      low.toInt + WordSize.bits64.select (span low high) word :=
    Int64.toInt_ofInt_of_le (by omega) (by omega)
  rw [given?, Option.ite_none_right_eq_some, Option.some.injEq, ← Int64.toInt_inj, hsum,
    Int64.le_iff_toInt_le, Int64.le_iff_toInt_le]
  constructor
  · rintro ⟨haccepts, htarget⟩
    exact ⟨by omega, haccepts, by omega⟩
  · rintro ⟨hbounds, haccepts, hselect⟩
    exact ⟨haccepts, by omega⟩

theorem evenly_given? (hle : low ≤ high)
    (hall : ¬(low = Int64.minValue ∧ high = Int64.maxValue)) :
    Evenly .bits64 (span low high) (given? low high) fun target =>
      low ≤ target ∧ target ≤ high := by
  refine evenly_of_index .bits64 (span_lt hle hall).2
    (fun target => (target.toInt - low.toInt).toNat) ?_ ?_ ?_
  · intro target htarget
    have hspan := toInt_add_span hle
    rw [Int64.le_iff_toInt_le, Int64.le_iff_toInt_le] at htarget
    omega
  · exact fun _ _ => given?_eq_none_iff
  · exact fun _ hword _ => given?_eq_some_iff hle hword

theorem draw_of_given? (hle : low ≤ high)
    (hall : ¬(low = Int64.minValue ∧ high = Int64.maxValue)) (hlimit : tries < Generator.period)
    (hpass : ∀ i < tries, given? low high (g.word .bits64 i) = none)
    (hgiven : given? low high (g.word .bits64 tries) = some target) :
    draw low high g = (target, g.skip .bits64 (tries + 1)) := by
  rw [given?, Option.ite_none_right_eq_some, Option.some.injEq] at hgiven
  have hbelow := Generator.below_of_first hlimit
    (fun i hi => given?_eq_none_iff.1 (hpass i hi)) hgiven.1
  have hspan : ¬(high.toInt - low.toInt + 1).toNat = UInt64.size := (span_lt hle hall).2.ne
  rw [span] at hbelow hgiven
  simp only [draw, if_neg hspan, hbelow, hgiven.2]

end TargetSource

open TargetSource

/-- Neither a removal nor the draw of a target prefers any result. The first word that is accepted
decides, and of all words equally many are accepted for each available number of a pool and for each
target of a range. -/
theorem draws_fairly :
    (∀ p : Pool, 1 ≤ p.count .available → p.count .available < UInt32.size →
      Evenly .bits32 (p.count .available) p.chosen?
        (fun value => p.state? value = some .available) ∧
      ∀ g tries value, tries < Generator.period →
        (∀ i < tries, p.chosen? (g.word .bits32 i) = none) →
        p.chosen? (g.word .bits32 tries) = some value →
        p.discard g = .ok (value, p.setState value .removed, g.skip .bits32 (tries + 1))) ∧
    ∀ low high : Int64, low ≤ high → ¬(low = Int64.minValue ∧ high = Int64.maxValue) →
      Evenly .bits64 (span low high) (given? low high)
        (fun target => low ≤ target ∧ target ≤ high) ∧
      ∀ g tries target, tries < Generator.period →
        (∀ i < tries, given? low high (g.word .bits64 i) = none) →
        given? low high (g.word .bits64 tries) = some target →
        draw low high g = (target, g.skip .bits64 (tries + 1)) := by
  refine ⟨fun p hpos hlt => ⟨Pool.evenly_chosen? hpos hlt, ?_⟩,
    fun low high hle hall => ⟨evenly_given? hle hall, ?_⟩⟩
  · intro g tries value hlimit hpass hchosen
    exact Pool.discard_of_chosen? hpos hlt hlimit hpass hchosen
  · intro g tries target hlimit hpass hgiven
    exact draw_of_given? hle hall hlimit hpass hgiven

/-- One of three numbers and one of 990 targets, each after a word that is passed over. -/
theorem draws_fairly_secondWord :
    let p := Pool.full 3
    let g := Generator.ofSeed 324
    1 ≤ p.count .available ∧ p.count .available < UInt32.size ∧ p.state? 2 = some .available ∧
      ((Finset.range UInt32.size).filter fun word => p.chosen? word = some 2).card = 2 ^ 30 ∧
      1 < Generator.period ∧ p.chosen? (g.word .bits32 0) = none ∧
      p.chosen? (g.word .bits32 1) = some 2 ∧
      p.discard g = .ok (2, p.setState 2 .removed, g.skip .bits32 2) ∧
    (10 : Int64) ≤ 999 ∧ ¬((10 : Int64) = Int64.minValue ∧ (999 : Int64) = Int64.maxValue) ∧
      ((Finset.range UInt64.size).filter fun word => given? 10 999 word = some 867).card = 2 ^ 54 ∧
      given? 10 999 (g.word .bits64 0) = none ∧ given? 10 999 (g.word .bits64 1) = some 867 ∧
      draw 10 999 g = (867, g.skip .bits64 2) := by
  intro p g
  have hpos : 1 ≤ p.count .available := by decide
  have hlt : p.count .available < UInt32.size := by decide
  have havailable : p.state? 2 = some .available := by decide
  have hlimit : 1 < Generator.period := by decide
  have hpassed : p.chosen? (g.word .bits32 0) = none := by decide +kernel
  have hchosen : p.chosen? (g.word .bits32 1) = some 2 := by decide +kernel
  have hle : (10 : Int64) ≤ 999 := by decide
  have hall : ¬((10 : Int64) = Int64.minValue ∧ (999 : Int64) = Int64.maxValue) := by decide
  have hpassed' : given? 10 999 (g.word .bits64 0) = none := by decide +kernel
  have hgiven : given? 10 999 (g.word .bits64 1) = some 867 := by decide +kernel
  have hzeros : WordSize.bits32.leadingZeros (p.count .available) = 30 := by decide
  have hzeros' : WordSize.bits64.leadingZeros (span 10 999) = 54 := by decide
  have hfirst {passes : Nat → Prop} (h : passes 0) : ∀ i < 1, passes i := by
    intro i hi
    obtain rfl : i = 0 := Nat.lt_one_iff.1 hi
    exact h
  obtain ⟨hevenly, hdiscard⟩ := draws_fairly.1 p hpos hlt
  obtain ⟨hevenly', hdraw⟩ := draws_fairly.2 10 999 hle hall
  have hcard := hevenly.card_eq 2 havailable
  have hcard' := hevenly'.card_eq 867 (by decide)
  rw [hzeros] at hcard
  rw [hzeros'] at hcard'
  exact ⟨hpos, hlt, havailable, hcard, hlimit, hpassed, hchosen,
    hdiscard g 1 2 hlimit (hfirst hpassed) hchosen, hle, hall, hcard', hpassed', hgiven,
    hdraw g 1 867 hlimit (hfirst hpassed') hgiven⟩

end ArithmeticGame
