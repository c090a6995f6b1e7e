import RpcRouting.Random.ChaCha

namespace RpcRouting.Random

-- A generator whose numbers are fixed by its seed.
structure Seeded where
  key : Vector UInt32 8
  -- how many numbers of 64 bits have been taken
  taken : Nat

namespace Seeded

-- Spreads a seed over the words of a key, with a linear congruential generator.
def advance (state : UInt64) : UInt64 := state * 6364136223846793005 + 11634580027462260723

def output (state : UInt64) : UInt32 :=
  let mixed := (((state >>> 18) ^^^ state) >>> 27).toUInt32
  let turn := (state >>> 59).toUInt32
  (mixed >>> turn) ||| (mixed <<< ((32 - turn) % 32))

def keyOf (seed : UInt64) : Vector UInt32 8 :=
  Vector.ofFn fun i => output (Nat.repeat advance (i.val + 1) seed)

def ofSeed (seed : UInt64) : Seeded := ⟨keyOf seed, 0⟩

-- Two words of the key stream, the low one first.
def next (generator : Seeded) : Nat × Seeded :=
  let low := ChaCha.word generator.key (2 * generator.taken)
  let high := ChaCha.word generator.key (2 * generator.taken + 1)
  (low.toNat + high.toNat * UInt32.size, { generator with taken := generator.taken + 1 })

-- How many zeros the 64 bits of a number begin with.
def leadingZeros (n : Nat) : Nat := 63 - n.log2

-- What a number of 64 bits says about a number below `bound`: the high half of their product,
-- unless the low half falls into the part that would favour some results.
def accept? (bound number : Nat) : Option Nat :=
  let product := number * bound
  let zone := bound <<< leadingZeros bound - 1
  if product % UInt64.size ≤ zone then some (product / UInt64.size) else none

-- A block of the key stream holds eight numbers, and blocks are counted with 64 bits. After so many
-- numbers the same ones come again.
def period : Nat := 8 * UInt64.size

-- Takes a number, and says what it gives.
def attempt (bound : Nat) (generator : Seeded) : Option Nat × Seeded :=
  let (number, rest) := generator.next
  (accept? bound number, rest)

-- Repeats a step until it gives something, at most so many times.
def retry {σ α : Type} (step : σ → Option α × σ) : Nat → σ → Option (α × σ)
  | 0, _ => none
  | attempts + 1, state =>
    match step state with
    | (some a, rest) => some (a, rest)
    | (none, rest) => retry step attempts rest

-- A number below `bound`. A bound of zero takes nothing. There is no answer only if the attempts
-- would never end: what a whole period does not bring never comes.
def nextBelow? (bound : Nat) (generator : Seeded) : Option (Nat × Seeded) :=
  if bound = 0 then some (0, generator) else retry (attempt bound) period generator

end Seeded

end RpcRouting.Random
