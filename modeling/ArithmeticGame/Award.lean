/-!
# Awards

Points for the number of correct answers. Of the awards that are earned, the one that needed most
answers decides.
-/
namespace ArithmeticGame

structure Award where
  points : Nat
  /-- How many correct answers earn it. -/
  needed : Nat
deriving DecidableEq

/-- Awards, the hardest to earn first. -/
structure AwardTable where
  awards : List Award
deriving DecidableEq

namespace AwardTable

/-- The table of some awards; those that need equally many answers keep their order. -/
def ofList (awards : List Award) : AwardTable :=
  ⟨awards.mergeSort fun a b => decide (b.needed ≤ a.needed)⟩

/-- The points of the first award that is earned. -/
def score (table : AwardTable) (correct : Nat) : Nat :=
  match table.awards.find? fun award => decide (award.needed ≤ correct) with
  | some award => award.points
  | none => 0

def default : AwardTable := ofList [⟨10, 35⟩, ⟨9, 33⟩, ⟨8, 31⟩, ⟨7, 29⟩, ⟨6, 27⟩, ⟨5, 25⟩]

end AwardTable
end ArithmeticGame
