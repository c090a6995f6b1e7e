namespace RpcRouting.Decimal

-- The magnitude `mantissa * 2 ^ exponent` of a finite double-precision number. Normal numbers have
-- mantissas of 53 bits. Smaller ones have the least exponent.
structure Binary64 where
  mantissa : Nat
  exponent : Int
deriving Repr, DecidableEq

namespace Binary64

def minExponent : Int := -1074

def maxExponent : Int := 971

def zero : Binary64 := ⟨0, minExponent⟩

-- The fraction `num / den`, scaled by the power of two that is left out.
def scaled (num den : Nat) (exponent : Int) : Nat × Nat :=
  if exponent < 0 then (num <<< exponent.natAbs, den) else (num, den <<< exponent.natAbs)

-- The integer nearest to a fraction. A half goes to the even neighbour.
def roundEven (num den : Nat) : Nat :=
  let quotient := num / den
  let remainder := num % den
  if 2 * remainder > den || (2 * remainder = den && quotient % 2 = 1) then quotient + 1
  else quotient

-- The exponent at which `num / den` has an integral part of 53 bits, or the least there is.
def exponentFor (num den : Nat) : Int :=
  let guess : Int := (num.log2 : Int) - (den.log2 : Int) - 52
  let (n, d) := scaled num den guess
  max minExponent (if n / d < 1 <<< 52 then guess - 1 else guess)

-- The double nearest to `num / den`. There is none beyond the largest.
def nearest (num den : Nat) : Option Binary64 :=
  if num = 0 then some zero
  else
    let exponent := exponentFor num den
    let (n, d) := scaled num den exponent
    let mantissa := roundEven n d
    let result : Binary64 :=
      if mantissa = 1 <<< 53 then ⟨1 <<< 52, exponent + 1⟩ else ⟨mantissa, exponent⟩
    if result.exponent > maxExponent then none else some result

-- The value as a fraction.
def fraction (x : Binary64) : Nat × Nat :=
  if x.exponent < 0 then (x.mantissa, 1 <<< x.exponent.natAbs)
  else (x.mantissa <<< x.exponent.natAbs, 1)

def mul? (a b : Binary64) : Option Binary64 :=
  nearest (a.fraction.1 * b.fraction.1) (a.fraction.2 * b.fraction.2)

def div? (a b : Binary64) : Option Binary64 :=
  nearest (a.fraction.1 * b.fraction.2) (a.fraction.2 * b.fraction.1)

-- The double nearest to a power of ten.
def tenTo? (n : Nat) : Option Binary64 := nearest (Nat.pow 10 n) 1

-- Divides by `10 ^ step` so many times, unless the quotient vanishes before that.
def divideBy? (step : Nat) : Nat → Binary64 → Option Binary64
  | 0, x => some x
  | times + 1, x =>
    if x.mantissa = 0 then some x
    else ((tenTo? step).bind x.div?).bind (divideBy? step times)

-- The largest power of ten that is taken at once.
def maxStep : Nat := 308

-- Reads `significand * 10 ^ exponent`. The significand, each power of ten and each product or
-- quotient are rounded, so the result need not be the nearest double.
def ofDecimal? (significand : Nat) (exponent : Int) : Option Binary64 := do
  let x ← nearest significand 1
  if x.mantissa = 0 then return x
  let size := exponent.natAbs
  if exponent ≥ 0 then
    if size > maxStep then none else (tenTo? size).bind x.mul?
  else
    let times := (size - 1) / maxStep
    let y ← divideBy? maxStep times x
    divideBy? (size - maxStep * times) 1 y

end Binary64

end RpcRouting.Decimal
