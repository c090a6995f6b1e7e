import RpcRouting.Regex.Expr
import RpcRouting.Unicode.Utf8

namespace RpcRouting.Regex

open Unicode

-- How large an automaton an expression takes, as a pattern that takes too large a one is refused.
-- The automaton reads the bytes of a text backwards. This is the larger of two that are made, but
-- for what the other one keeps of groups, which is left out. So is what words to choose from have
-- in common.

namespace Automaton

-- The memory of one state, in bytes.
def state : Nat := 32

-- The memory of each way on that a state leaves to choose from.
def way : Nat := 4

-- The same where the way is for a range of bytes.
def byteWay : Nat := 8

-- A single character is read byte by byte. A set within ASCII is one state with a way for each of
-- its ranges, and an end. For any other set there is a tree that begins with the first bytes.
def ofSet (set : CharSet) : Nat :=
  let ranges := CodeRange.subtract set.codeRanges [CodeRange.surrogates]
  match ranges with
  | [] => state
  | [⟨first, last, _⟩] =>
    if first = last then state * (Char.ofNat first).utf8Size
    else ofRanges ranges
  | _ => ofRanges ranges
where
  ofRanges (ranges : List CodeRange) : Nat :=
    if ranges.all (·.last < 0x80) then 2 * state + byteWay * ranges.length
    else
      let sequences := ranges.flatMap Utf8.rangeSequences
      2 * state + way * sequences.length + state * Utf8.nodeCount [] sequences

-- `least` times the same, and then up to `extra` times more. What can be empty has a loop of its
-- own, which is entered or passed by.
def ofRepetition (weight : Nat) (canBeEmpty : Bool) : Nat → Option Nat → Nat
  | 0, none => weight + if canBeEmpty then 3 * state + 4 * way else state + 2 * way
  | least + 1, none => (least + 1) * weight + state + 2 * way
  | 0, some 0 => state
  | 0, some 1 => weight + 2 * state + 2 * way
  | least, some 0 => least * weight
  | least, some extra =>
    (if least = 0 then state else least * weight) + state +
      extra * (weight + state + 2 * way)

end Automaton

namespace Expr

open Automaton (state way)

-- Conditions apart, the expression can match without a character.
def canBeEmpty : Expr → Bool
  | .empty => true
  | .one _ => false
  | .anchor _ => true
  | .seq a b => a.canBeEmpty && b.canBeEmpty
  | .alt a b => a.canBeEmpty || b.canBeEmpty
  | .rep a least _ => least = 0 || a.canBeEmpty

-- The expression never matches a character.
def isAlwaysEmpty : Expr → Bool
  | .empty => true
  | .one _ => false
  | .anchor _ => true
  | .seq a b => a.isAlwaysEmpty && b.isAlwaysEmpty
  | .alt a b => a.isAlwaysEmpty && b.isAlwaysEmpty
  | .rep a least extra => a.isAlwaysEmpty || (least = 0 && extra = some 0)

-- What an expression adds to the weight of a choice. A choice within a choice is part of it.
def branchWeight : Expr → Nat → Nat
  | .alt _ _, weight => weight - 2 * state
  | _, weight => weight + way

-- The memory, in bytes, of the automaton for an expression. What is always empty need not be there
-- more than once.
def weight : Expr → Nat
  | .empty => state
  | .one set => Automaton.ofSet set
  | .anchor _ => state
  | .seq a b => a.weight + b.weight
  | .alt a b => 2 * state + a.branchWeight a.weight + b.branchWeight b.weight
  | .rep a least extra =>
    if a.isAlwaysEmpty then
      let most := min (extra.elim 1 (least + ·)) 1
      Automaton.ofRepetition a.weight a.canBeEmpty (min least 1) (some (most - min least 1))
    else Automaton.ofRepetition a.weight a.canBeEmpty least extra

end Expr

-- The memory that an automaton may take, less what each takes for its start and its end.
def maxWeight : Nat := 10 * 1024 * 1024 - 4 * Automaton.state

end RpcRouting.Regex
