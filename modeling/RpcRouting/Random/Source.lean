import RpcRouting.Random.Draw
import RpcRouting.Random.Seeded

namespace RpcRouting.Random

-- Where the answers to draws come from.
inductive Source where
  | seeded (generator : Seeded)
  -- Answers read off a list, and zero once it is used up. Unless `raw`, they are reduced to the
  -- bound.
  | listed (answers : List Nat) (raw : Bool)

namespace Source

def ofSeed (seed : UInt64) : Source := .seeded (.ofSeed seed)

-- A generator of which no number is ever accepted gives zero.
def nextBelow (bound : Nat) : Source → Nat × Source
  | .seeded generator =>
    match generator.nextBelow? bound with
    | some (n, rest) => (n, .seeded rest)
    | none => (0, .seeded generator)
  | .listed answers raw =>
    let answer := answers.headD 0
    (if raw then answer else answer % max bound 1, .listed answers.tail raw)

def run {α : Type} (source : Source) (m : Draw α) : Draw.Result α Source :=
  m.run nextBelow source

end Source

end RpcRouting.Random
