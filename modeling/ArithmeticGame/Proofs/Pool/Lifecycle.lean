import ArithmeticGame.Proofs.Pool.States
/-!
# The life of a pool number

Uses and removals follow each other in any order and with any arguments, sensible or not. The pool
keeps its numbers, each in its place, and a number that is no longer available stays as it is.
-/
namespace ArithmeticGame

/-- What can be done to a pool. Each removal may come with a generator of its own, or with a place
that was drawn in any other way. -/
inductive PoolOperation where
  | use (values : List Nat)
  | discard (generator : Generator)
  | discardAt (index : Nat)

namespace Pool

/-- The pool after an operation. A removal that fails leaves it as it is. -/
def apply (p : Pool) : PoolOperation → Pool
  | .use values => (p.use values).1
  | .discard generator =>
    match p.discard generator with
    | .ok (_, p, _) => p
    | .error _ => p
  | .discardAt index =>
    match p.discardAt index with
    | .ok (_, p) => p
    | .error _ => p

def run (p : Pool) (operations : List PoolOperation) : Pool := operations.foldl apply p

theorem run_append (p : Pool) (operations more : List PoolOperation) :
    p.run (operations ++ more) = (p.run operations).run more := List.foldl_append

/-! ## One operation -/

inductive Step (p : Pool) : Pool → Prop
  | used (values : List Nat) : Step p (p.use values).1
  | removed {value : Nat} (h : p.state? value = some .available) :
      Step p (p.setState value .removed)
  | same : Step p p

theorem step_apply (p : Pool) (o : PoolOperation) : p.Step (p.apply o) := by
  cases o with
  | use values => exact .used values
  | discard g =>
    simp only [apply]
    split
    · next hd =>
      obtain ⟨hvalue, rfl⟩ := discard_ok hd
      exact .removed hvalue
    · exact .same
  | discardAt index =>
    simp only [apply]
    split
    · next hd =>
      obtain ⟨hvalue, rfl⟩ := discardAt_ok hd
      exact .removed hvalue
    · exact .same

theorem Step.size_eq {p p' : Pool} (h : p.Step p') : p'.size = p.size := by
  cases h with
  | used values => exact size_use p values
  | removed => exact size_setState ..
  | same => rfl

theorem Step.state?_eq {p p' : Pool} (h : p.Step p') {value : Nat} {state : Availability}
    (hv : p.state? value = some state) (hs : state ≠ .available) :
    p'.state? value = some state := by
  have hgone : p.state? value ≠ some .available := by simp [hv, hs]
  cases h with
  | used values =>
    have hnot : value ∉ (p.use values).2 := fun hmem => hgone (mem_use.1 hmem).2
    rw [state?_use, if_neg hnot, hv]
  | @removed other hother =>
    have hne : value ≠ other := fun hvalue => hgone (hvalue ▸ hother)
    rw [state?_setState hother, if_neg hne, hv]
  | same => exact hv

/-! ## Runs -/

theorem size_run (p : Pool) (operations : List PoolOperation) :
    (p.run operations).size = p.size := by
  induction operations generalizing p with
  | nil => rfl
  | cons o operations ih => exact (ih (p.apply o)).trans (p.step_apply o).size_eq

theorem state?_run {p : Pool} {value : Nat} {state : Availability}
    (h : p.state? value = some state) (hs : state ≠ .available) (operations : List PoolOperation) :
    (p.run operations).state? value = some state := by
  induction operations generalizing p with
  | nil => exact h
  | cons o operations ih => exact ih ((p.step_apply o).state?_eq h hs)

theorem count_add (p : Pool) :
    p.count .available + p.count .used + p.count .removed = p.size := by
  simp only [count, size]
  induction p.numbers with
  | nil => rfl
  | cons number numbers ih =>
    simp only [List.countP_cons, List.length_cons]
    cases number.state <;> simp <;> omega

/-- Whatever is done to a full pool, it keeps its numbers in their places and finds each by its
value, every number is in one state, and a number that was used or removed stays so. -/
theorem gone_for_good (size : Nat) (operations more : List PoolOperation) :
    let earlier := (full size).run operations
    let later := (full size).run (operations ++ more)
    earlier.numbers.length = size ∧
    (∀ i number, earlier.numbers[i]? = some number → number.value = i + 1) ∧
    (∀ value, (earlier.state? value).isSome ↔ 1 ≤ value ∧ value ≤ size) ∧
    (∀ value state, earlier.state? value = some state ↔
      ∃ number ∈ earlier.numbers, number.value = value ∧ number.state = state) ∧
    earlier.count .available + earlier.count .used + earlier.count .removed = size ∧
    ∀ value, (earlier.state? value = some .used → later.state? value = some .used) ∧
      (earlier.state? value = some .removed → later.state? value = some .removed) := by
  intro earlier later
  have hsize : earlier.size = size := (size_run ..).trans (size_full size)
  have hlater : later = earlier.run more := run_append ..
  refine ⟨hsize, fun _ _ => earlier.value_of_getElem?, fun value => ?_, fun _ _ => state?_eq_some,
    ?_, fun value => ⟨fun hused => ?_, fun hremoved => ?_⟩⟩
  · rw [state?_isSome, hsize]
  · rw [count_add, hsize]
  · rw [hlater]
    exact state?_run hused (by decide) more
  · rw [hlater]
    exact state?_run hremoved (by decide) more

end Pool
end ArithmeticGame
