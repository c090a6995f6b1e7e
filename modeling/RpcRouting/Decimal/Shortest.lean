import RpcRouting.Decimal.Binary64

namespace RpcRouting.Decimal

-- A decimal number `digits * 10 ^ exponent`.
structure Scientific where
  digits : Nat
  exponent : Int
deriving Repr, DecidableEq

namespace Binary64

-- The value and the two ends of the interval that rounds to it, in quarters of the distance to
-- the next larger double. Below a power of two the neighbour is only half as far.
def interval (x : Binary64) : Nat × Nat × Nat :=
  let below := if x.mantissa = 1 <<< 52 && x.exponent > minExponent then 1 else 2
  (4 * x.mantissa - below, 4 * x.mantissa, 4 * x.mantissa + 2)

-- The power of two of one such quarter, as a fraction.
def quarter (x : Binary64) : Nat × Nat :=
  let e := x.exponent - 2
  if e < 0 then (1, 1 <<< e.natAbs) else (1 <<< e.natAbs, 1)

-- The power of ten `10 ^ e` as a fraction.
def powerOfTen (e : Int) : Nat × Nat :=
  if e < 0 then (1, Nat.pow 10 e.natAbs) else (Nat.pow 10 e.natAbs, 1)

-- The grid point nearest to the value among its two neighbours on the grid of multiples of
-- `10 ^ e`, if one of them rounds to the value. A tie goes to the even one.
def onGrid? (x : Binary64) (e : Int) : Option Scientific :=
  let (low, value, high) := x.interval
  let (qn, qd) := x.quarter
  let (tn, td) := powerOfTen e
  -- in units of the grid: a quarter is `unit / parts`
  let unit := qn * td
  let parts := qd * tn
  let inside (d : Nat) : Bool :=
    if x.mantissa % 2 = 0 then low * unit ≤ d * parts && d * parts ≤ high * unit
    else low * unit < d * parts && d * parts < high * unit
  let floor := value * unit / parts
  let rest := value * unit % parts
  let upper := 2 * rest > parts || (2 * rest = parts && floor % 2 = 1)
  let first := if upper then floor + 1 else floor
  let second := if upper then floor else floor + 1
  if inside first then some ⟨first, e⟩
  else if inside second then some ⟨second, e⟩
  else none

-- The number of decimal digits before the point, less one.
def magnitude (x : Binary64) : Int :=
  let (n, d) := x.fraction
  if n ≥ d then ((Nat.toDigits 10 (n / d)).length : Int) - 1
  else
    let size := (Nat.toDigits 10 (d / n)).length
    -- `n * 10 ^ size` against `d` settles which of two powers of ten it is
    if n * Nat.pow 10 (size - 1) ≥ d then -((size : Int) - 1) else -(size : Int)

def strip : Nat → Scientific → Scientific
  | 0, s => s
  | fuel + 1, s =>
    if s.digits ≠ 0 && s.digits % 10 = 0 then strip fuel ⟨s.digits / 10, s.exponent + 1⟩ else s

-- The fewest decimal digits that read back as the number, and of those the nearest.
def shortest (x : Binary64) : Scientific :=
  if x.mantissa = 0 then ⟨0, 0⟩
  else
    let top := x.magnitude
    match (List.range 17).findSome? fun (n : Nat) => x.onGrid? (top - n) with
    | some s => strip 20 s
    | none => ⟨x.fraction.1 / x.fraction.2, 0⟩

end Binary64

-- How numbers with a fraction are spelt: by position from `10 ^ -5` up to, but without, `10 ^ 16`,
-- always with a point, and otherwise with an exponent that carries its sign.
def spell (negative : Bool) (x : Binary64) : String :=
  let s := x.shortest
  let digits := Nat.toDigits 10 s.digits
  let length : Int := digits.length
  let point := length + s.exponent
  let body : List Char :=
    if x.mantissa = 0 then "0.0".toList
    else if 0 ≤ s.exponent && point ≤ 16 then
      digits ++ List.replicate s.exponent.natAbs '0' ++ ".0".toList
    else if 0 < point && point ≤ 16 then
      digits.take point.natAbs ++ '.' :: digits.drop point.natAbs
    else if -5 < point && point ≤ 0 then
      "0.".toList ++ List.replicate point.natAbs '0' ++ digits
    else
      let e := point - 1
      let mantissa :=
        match digits with
        | [d] => [d]
        | d :: rest => d :: '.' :: rest
        | [] => []
      mantissa ++ 'e' :: (if e < 0 then '-' else '+') :: (Nat.toDigits 10 e.natAbs)
  String.ofList (if negative then '-' :: body else body)

end RpcRouting.Decimal
