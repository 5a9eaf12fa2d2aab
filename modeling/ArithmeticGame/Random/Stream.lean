/-!
# A reproducible stream of words

The key stream of ChaCha with twelve rounds, its key being spread from a 64-bit seed. Equal seeds
give equal streams, so a seeded game can be played again.
-/
namespace ArithmeticGame

/-- A stream of words: its key, and how many words have been taken from it. -/
structure Generator where
  key : Vector UInt32 8
  taken : Nat
deriving DecidableEq

namespace Generator

def rotateLeft (x n : UInt32) : UInt32 := (x <<< n) ||| (x >>> (32 - n))

def rotateRight (x n : UInt32) : UInt32 := (x >>> n) ||| (x <<< (32 - n))

/-- The four words of a quarter round. -/
def quarter (a b c d : UInt32) : UInt32 × UInt32 × UInt32 × UInt32 :=
  let a := a + b
  let d := rotateLeft (d ^^^ a) 16
  let c := c + d
  let b := rotateLeft (b ^^^ c) 12
  let a := a + b
  let d := rotateLeft (d ^^^ a) 8
  let c := c + d
  let b := rotateLeft (b ^^^ c) 7
  (a, b, c, d)

def quarterAt (i j k l : Fin 16) (s : Vector UInt32 16) : Vector UInt32 16 :=
  let (a, b, c, d) := quarter s[i] s[j] s[k] s[l]
  (((s.set i a).set j b).set k c).set l d

/-- Four quarter rounds on the columns, then four on the diagonals. -/
def doubleRound (s : Vector UInt32 16) : Vector UInt32 16 :=
  let s := quarterAt 3 7 11 15 (quarterAt 2 6 10 14 (quarterAt 1 5 9 13 (quarterAt 0 4 8 12 s)))
  quarterAt 3 4 9 14 (quarterAt 2 7 8 13 (quarterAt 1 6 11 12 (quarterAt 0 5 10 15 s)))

/-- The sixteen words of one block of the stream. -/
def block (key : Vector UInt32 8) (counter : UInt64) : Vector UInt32 16 :=
  let constants : Vector UInt32 4 := #v[0x61707865, 0x3320646e, 0x79622d32, 0x6b206574]
  let position : Vector UInt32 4 := #v[counter.toUInt32, (counter >>> 32).toUInt32, 0, 0]
  let start : Vector UInt32 16 := constants ++ key ++ position
  let mixed := Nat.repeat doubleRound 6 start
  Vector.zipWith (· + ·) mixed start

/-- One step of the sequence that spreads a seed over a key. -/
def spread (state : UInt64) : UInt64 := state * 6364136223846793005 + 11634580027462260723

/-- The key word that a step of the spreading sequence gives. -/
def keyWord (state : UInt64) : UInt32 :=
  rotateRight (((state >>> 18) ^^^ state) >>> 27).toUInt32 (state >>> 59).toUInt32

def ofSeed (seed : UInt64) : Generator :=
  { key := Vector.ofFn fun i : Fin 8 => keyWord (Nat.repeat spread (i + 1) seed)
    taken := 0 }

def next32 (g : Generator) : UInt32 × Generator :=
  let words := block g.key (UInt64.ofNat (g.taken / 16))
  (words.get ⟨g.taken % 16, Nat.mod_lt _ (by decide)⟩, { g with taken := g.taken + 1 })

/-- The next 64-bit word, its low half first. -/
def next64 (g : Generator) : UInt64 × Generator :=
  let (low, g) := g.next32
  let (high, g) := g.next32
  ((high.toUInt64 <<< 32) ||| low.toUInt64, g)

end Generator
end ArithmeticGame
