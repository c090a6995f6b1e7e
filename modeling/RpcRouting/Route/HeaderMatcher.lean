import RpcRouting.Regex.Pattern

namespace RpcRouting

open Regex (Pattern)

-- The integers from `start` up to, but without, `stop`.
structure IntRange where
  start : Int64
  stop : Int64
deriving Repr, DecidableEq

namespace IntRange

def contains (range : IntRange) (n : Int64) : Bool := range.start ≤ n && n < range.stop

end IntRange

-- The integer of 64 bits that digits stand for.
def parseDigits? (negative : Bool) (digits : List Char) : Option Int64 :=
  if digits.isEmpty || !digits.all Char.isDigit then none
  else
    let size : Nat := digits.foldl (fun n c => 10 * n + (c.toNat - '0'.toNat)) 0
    let n : Int := if negative then -(size : Int) else size
    if Int64.minValue.toInt ≤ n && n ≤ Int64.maxValue.toInt then some (.ofInt n) else none

-- A decimal integer of 64 bits, with or without one sign.
def parseInt64? (text : String) : Option Int64 :=
  match text.toList with
  | '-' :: digits => parseDigits? true digits
  | '+' :: digits => parseDigits? false digits
  | digits => parseDigits? false digits

-- What a matcher asks of the value of a header.
inductive HeaderTest where
  | exact (value : String)
  | regex (pattern : Pattern)
  | range (range : IntRange)
  | present (wanted : Bool)
  | startsWith (start : String)
  | endsWith (stop : String)
deriving Repr, DecidableEq

namespace HeaderTest

-- The test on a value that is there.
def accepts : HeaderTest → String → Bool
  | .exact whole, value => value == whole
  | .regex pattern, value => pattern.isFullMatch value
  | .range bounds, value => (parseInt64? value).any bounds.contains
  | .present wanted, _ => wanted
  | .startsWith start, value => start.toList.isPrefixOf value.toList
  | .endsWith stop, value => stop.toList.isSuffixOf value.toList

end HeaderTest

structure HeaderMatcher where
  name : String
  test : HeaderTest
  invert : Bool
deriving Repr, DecidableEq

namespace HeaderMatcher

-- A header that is absent matches only a test for its presence. Inversion does not turn absence
-- into a match otherwise.
def accepts (matcher : HeaderMatcher) : Option String → Bool
  | some value => matcher.test.accepts value != matcher.invert
  | none =>
    match matcher.test with
    | .present wanted => (!wanted) != matcher.invert
    | _ => false

end HeaderMatcher

end RpcRouting
