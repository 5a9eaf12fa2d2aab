import ArithmeticGame.Proofs.Pool.States
import Mathlib.Logic.Function.Iterate
/-!
# Removing every number

Removals follow each other, with whatever places are drawn. Each takes away one of the numbers that
are available, so that together they give all of them, and then nothing happens any more.
-/
namespace ArithmeticGame

/-- A way to draw one of some places. -/
structure Draw (γ : Type) where
  place : Nat → γ → Nat × γ
  place_lt {count : Nat} (g : γ) (h : 0 < count) : (place count g).1 < count

def Draw.uniform : Draw Generator where
  place count g := g.below (if count < UInt32.size then .bits32 else .bits64) count
  place_lt g h := Generator.below_lt _ h g

namespace Pool

variable {γ : Type}

/-- What a removal gives, with the pool and the generator after it. -/
def discardBy (draw : Draw γ) (s : Pool × γ) : Except PoolFault Nat × Pool × γ :=
  let available := s.1.values .available
  if available.isEmpty then (.error .exhausted, s)
  else
    let (index, g) := draw.place available.length s.2
    match s.1.discardAt index with
    | .ok (value, p) => (.ok value, p, g)
    | .error fault => (.error fault, s.1, g)

/-- The removal of a game, seen in the same way. -/
def tryDiscard (s : Pool × Generator) : Except PoolFault Nat × Pool × Generator :=
  match s.1.discard s.2 with
  | .ok (value, p, g) => (.ok value, p, g)
  | .error fault => (.error fault, s)

def afterRemovals (remove : Pool × γ → Except PoolFault Nat × Pool × γ) (calls : Nat)
    (s : Pool × γ) : Pool × γ := (fun s => (remove s).2)^[calls] s

/-- Removals give the numbers of a list one by one, each changing the number that it gives, and
after them change nothing. -/
structure Empties (remove : Pool × γ → Except PoolFault Nat × Pool × γ) (s : Pool × γ)
    (order : List Nat) : Prop where
  nodup : order.Nodup
  mem_iff : ∀ value, value ∈ order ↔ s.1.state? value = some .available
  length_eq : order.length = s.1.count .available
  removes : ∀ i value, order[i]? = some value →
    (remove (afterRemovals remove i s)).1 = .ok value ∧
    (afterRemovals remove i s).1.state? value = some .available ∧
    ∀ other, (afterRemovals remove (i + 1) s).1.state? other =
      if other = value then some .removed else (afterRemovals remove i s).1.state? other
  exhausted : ∀ calls, order.length ≤ calls →
    remove (afterRemovals remove calls s) = (.error .exhausted, afterRemovals remove calls s)

theorem afterRemovals_succ (remove : Pool × γ → Except PoolFault Nat × Pool × γ) (calls : Nat)
    (s : Pool × γ) :
    afterRemovals remove (calls + 1) s = afterRemovals remove calls (remove s).2 :=
  Function.iterate_succ_apply ..

/-! ## One removal -/

theorem discardBy_of_none (draw : Draw γ) {s : Pool × γ} (h : s.1.values .available = []) :
    discardBy draw s = (.error .exhausted, s) := by
  simp [discardBy, h]

theorem discardBy_of_some (draw : Draw γ) {s : Pool × γ} (h : s.1.values .available ≠ []) :
    ∃ value g, s.1.state? value = some .available ∧
      discardBy draw s = (.ok value, s.1.setState value .removed, g) := by
  have hlt := draw.place_lt s.2 (List.length_pos_iff.2 h)
  refine ⟨_, (draw.place (s.1.values .available).length s.2).2,
    mem_values.1 (List.getElem_mem hlt), ?_⟩
  simp [discardBy, h, discardAt, List.getElem?_eq_getElem hlt]

theorem tryDiscard_eq_discardBy (s : Pool × Generator) : tryDiscard s = discardBy .uniform s := by
  by_cases h : s.1.values .available = []
  · simp [tryDiscard, discard, discardBy, h]
  · have hlt := Draw.uniform.place_lt s.2 (List.length_pos_iff.2 h)
    simp only [Draw.uniform] at hlt
    simp [tryDiscard, discard, discardBy, Draw.uniform, h, discardAt, List.getElem?_eq_getElem hlt]

/-! ## All removals -/

variable {remove : Pool × γ → Except PoolFault Nat × Pool × γ} {s : Pool × γ}

theorem Empties.nil (h : s.1.values .available = []) (hr : remove s = (.error .exhausted, s)) :
    Empties remove s [] where
  nodup := List.nodup_nil
  mem_iff := by
    intro value
    rw [← mem_values, h]
  length_eq := by rw [← length_values, h]
  removes := by simp
  exhausted := by
    intro calls _
    have hfixed : (remove s).2 = s := by rw [hr]
    have hafter : afterRemovals remove calls s = s := Function.iterate_fixed hfixed calls
    rw [hafter, hr]

theorem Empties.cons {value : Nat} {g : γ} {order : List Nat}
    (hv : s.1.state? value = some .available)
    (hr : remove s = (.ok value, s.1.setState value .removed, g))
    (h : Empties remove (s.1.setState value .removed, g) order) :
    Empties remove s (value :: order) where
  nodup := by
    refine List.nodup_cons.2 ⟨?_, h.nodup⟩
    simp [h.mem_iff, state?_setState hv]
  mem_iff := by
    intro other
    rw [List.mem_cons, h.mem_iff, state?_setState hv]
    by_cases ho : other = value
    · simp [ho, hv]
    · simp [ho]
  length_eq := by
    rw [List.length_cons, h.length_eq]
    exact count_setState_add_one hv (by decide)
  removes := by
    intro i other hother
    cases i with
    | zero =>
      obtain rfl : value = other := by simpa using hother
      rw [afterRemovals_succ, hr]
      exact ⟨congrArg Prod.fst hr, hv, state?_setState hv .removed⟩
    | succ i =>
      simp only [afterRemovals_succ, hr]
      exact h.removes i other hother
  exhausted := by
    intro calls hcalls
    cases calls with
    | zero => simp at hcalls
    | succ calls =>
      simp only [afterRemovals_succ, hr]
      exact h.exhausted calls (Nat.le_of_succ_le_succ hcalls)

theorem exists_empties (draw : Draw γ) (s : Pool × γ) :
    ∃ order, Empties (discardBy draw) s order := by
  -- the induction is on how many numbers are still available
  induction hn : s.1.count .available generalizing s with
  | zero =>
    have hnone : s.1.values .available = [] := by
      rw [← List.length_eq_zero_iff, length_values, hn]
    exact ⟨[], .nil hnone (discardBy_of_none draw hnone)⟩
  | succ n ih =>
    have hsome : s.1.values .available ≠ [] := by
      rw [← List.length_pos_iff, length_values, hn]
      exact Nat.succ_pos n
    obtain ⟨value, g, hv, hr⟩ := discardBy_of_some draw hsome
    have hleft : (s.1.setState value .removed).count .available = n := by
      have hcount := count_setState_add_one hv (show .removed ≠ Availability.available by decide)
      omega
    obtain ⟨order, horder⟩ := ih (s.1.setState value .removed, g) hleft
    exact ⟨value :: order, .cons hv hr horder⟩

/-- Whatever pool and generator it starts from, and in whatever way places are drawn, removing goes
through the available numbers once each and then finds none. -/
theorem removes_each_once (p : Pool) :
    (∀ g : Generator, ∃ order, Empties tryDiscard (p, g) order) ∧
    ∀ (γ : Type) (draw : Draw γ) (g : γ), ∃ order, Empties (discardBy draw) (p, g) order := by
  constructor
  · intro g
    rw [funext tryDiscard_eq_discardBy]
    exact exists_empties .uniform (p, g)
  · intro γ draw g
    exact exists_empties draw (p, g)

/-- With one and two used, the other three of five numbers are removed. -/
theorem removes_each_once_three :
    let s := (((full 5).use [1, 2]).1, Generator.ofSeed 42)
    ∃ order : List Nat, order.length = 3 ∧ order.Nodup ∧
      (∀ value, value ∈ order ↔ value = 3 ∨ value = 4 ∨ value = 5) ∧
      tryDiscard (afterRemovals tryDiscard 3 s) =
        (.error .exhausted, afterRemovals tryDiscard 3 s) := by
  intro s
  have hvalues : s.1.values .available = [3, 4, 5] := by decide
  obtain ⟨order, h⟩ := (removes_each_once s.1).1 s.2
  have hlength : order.length = 3 := by rw [h.length_eq, ← length_values, hvalues]; rfl
  refine ⟨order, hlength, h.nodup, ?_, h.exhausted 3 (Nat.le_of_eq hlength)⟩
  intro value
  rw [h.mem_iff, ← mem_values, hvalues]
  simp

end Pool
end ArithmeticGame
