import ArithmeticGame.Pool.Fault
import ArithmeticGame.Random.Uniform
/-!
# The pool of numbers

The numbers from one up to a size. Each starts available and leaves that state once, used by an
answer or removed by chance.
-/
namespace ArithmeticGame

inductive Availability where
  | available
  | used
  | removed
deriving DecidableEq

def Availability.name : Availability → String
  | available => "Available"
  | used => "Used"
  | removed => "Removed"

structure PoolNumber where
  value : Nat
  state : Availability
deriving DecidableEq

/-- The numbers from one on, in order, so that each is found by its place. -/
structure Pool where
  numbers : List PoolNumber
  values_eq : numbers.map PoolNumber.value = List.range' 1 numbers.length
deriving DecidableEq

theorem PoolNumber.map_value_modify (numbers : List PoolNumber) (i : Nat) (state : Availability) :
    (numbers.modify i fun number => { number with state }).map PoolNumber.value =
      numbers.map PoolNumber.value := by
  apply List.ext_getElem?
  intro j
  rw [List.getElem?_map, List.getElem?_map, List.getElem?_modify]
  cases numbers[j]? with
  | none => rfl
  | some number => by_cases hij : i = j <;> simp [hij]

namespace Pool

/-- The largest size that the settings allow, and their default. -/
def defaultSize : Nat := 100

/-- The pool of the numbers from one to `size`, all available. -/
def full (size : Nat) : Pool where
  numbers := (List.range' 1 size).map fun value => ⟨value, .available⟩
  values_eq := by simp [Function.comp_def]

def size (p : Pool) : Nat := p.numbers.length

def get? (p : Pool) : Nat → Option PoolNumber
  | 0 => none
  | i + 1 => p.numbers[i]?

def state? (p : Pool) (value : Nat) : Option Availability := (p.get? value).map PoolNumber.state

def setState (p : Pool) (value : Nat) (state : Availability) : Pool where
  numbers := p.numbers.modify (value - 1) fun number => { number with state }
  values_eq := by rw [PoolNumber.map_value_modify, List.length_modify, p.values_eq]

def count (p : Pool) (state : Availability) : Nat :=
  p.numbers.countP fun number => number.state = state

/-- The numbers in a state, ascending. -/
def values (p : Pool) (state : Availability) : List Nat :=
  (p.numbers.filter fun number => number.state = state).map PoolNumber.value

/-- Uses the available ones among the values, and tells which they were. -/
def use (p : Pool) : List Nat → Pool × List Nat
  | [] => (p, [])
  | value :: values =>
    if p.state? value = some .available then
      let (p, changed) := (p.setState value .used).use values
      (p, value :: changed)
    else p.use values

/-- Removes the available number at a place in their order, and tells which it was. -/
def discardAt (p : Pool) (index : Nat) : Except PoolFault (Nat × Pool) :=
  match (p.values .available)[index]? with
  | some value => .ok (value, p.setState value .removed)
  | none => .error .exhausted

/-- Removes an available number chosen uniformly. Nothing is drawn when there is none. -/
def discard (p : Pool) (g : Generator) : Except PoolFault (Nat × Pool × Generator) :=
  let available := p.values .available
  if available.isEmpty then .error .exhausted
  else
    let size := if available.length < UInt32.size then WordSize.bits32 else .bits64
    let (index, g) := g.below size available.length
    match p.discardAt index with
    | .ok (value, p) => .ok (value, p, g)
    | .error fault => .error fault

end Pool
end ArithmeticGame
