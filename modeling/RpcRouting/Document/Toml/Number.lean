import RpcRouting.Document.Toml.Text

namespace RpcRouting.Document.Toml

open Decimal
open Json (naturalNumber hexValue?)

-- More digits. A single underscore may stand between two of them.
def moreDigits? (isDigit : Char → Bool) : List Char → Option (List Char × List Char)
  | [] => some ([], [])
  | ['_'] => none
  | '_' :: d :: rest =>
    if isDigit d then (moreDigits? isDigit rest).map fun (digits, left) => (d :: digits, left)
    else none
  | c :: rest =>
    if isDigit c then (moreDigits? isDigit rest).map fun (digits, left) => (c :: digits, left)
    else some ([], c :: rest)

-- At least one digit.
def digits? (isDigit : Char → Bool) : List Char → Option (List Char × List Char)
  | [] => none
  | c :: rest =>
    if isDigit c then (moreDigits? isDigit rest).map fun (digits, left) => (c :: digits, left)
    else none

-- A single zero, or digits that do not begin with one.
def whole? : List Char → Option (List Char × List Char)
  | '0' :: rest => some (['0'], rest)
  | cs => digits? Char.isDigit cs

-- Whether a number has a minus sign, and what follows its sign.
def signed : List Char → Bool × List Char
  | '-' :: rest => (true, rest)
  | '+' :: rest => (false, rest)
  | cs => (false, cs)

def fraction? : List Char → Option (List Char × List Char)
  | '.' :: rest => digits? Char.isDigit rest
  | cs => some ([], cs)

def power? : List Char → Option (Int × List Char)
  | 'e' :: rest => exponent rest
  | 'E' :: rest => exponent rest
  | cs => some (0, cs)
where
  exponent (cs : List Char) : Option (Int × List Char) :=
    let (negative, unsigned) := signed cs
    (digits? Char.isDigit unsigned).map fun (digits, left) =>
      (if negative then -(naturalNumber digits : Int) else naturalNumber digits, left)

-- The double nearest to `significand * 10 ^ exponent`, a significand of so many digits. There is
-- none beyond the largest.
def nearestDecimal? (size significand : Nat) (exponent : Int) : Option Binary64 :=
  if significand = 0 || exponent + size < -400 then some .zero
  else if exponent > 400 then none
  else if exponent < 0 then Binary64.nearest significand (Nat.pow 10 exponent.natAbs)
  else Binary64.nearest (significand * Nat.pow 10 exponent.natAbs) 1

-- Numbers above all doubles are refused. Those below stand as zero, as do infinities and what is
-- no number.
def float? (negative : Bool) (whole : List Char) (cs : List Char) :
    Option (Value × List Char) := do
  let (fraction, afterFraction) ← fraction? cs
  let (power, rest) ← power? afterFraction
  let digits := whole ++ fraction
  match nearestDecimal? digits.length (naturalNumber digits) (power - fraction.length) with
  | some magnitude => return (.float negative magnitude, rest)
  | none => if negative then return (.float true .zero, rest) else none

def startsFloat : List Char → Bool
  | c :: _ => c == '.' || c == 'e' || c == 'E'
  | [] => false

-- Integers are those of 64 bits with a sign.
def integer? (negative : Bool) (n : Nat) : Option Value :=
  let z : Int := if negative then -(n : Int) else n
  if Int64.minValue.toInt ≤ z && z ≤ Int64.maxValue.toInt then some (.int z) else none

def radixInteger? (radix : Nat) (cs : List Char) : Option (Value × List Char) := do
  let isDigit (c : Char) : Bool := (hexValue? c).any (· < radix)
  let (digits, rest) ← digits? isDigit cs
  let n := digits.foldl (fun n c => radix * n + (hexValue? c).getD 0) 0
  return (← integer? false n, rest)

def decimal? (cs : List Char) : Option (Value × List Char) := do
  let (negative, unsigned) := signed cs
  let (whole, rest) ← whole? unsigned
  if startsFloat rest then float? negative whole rest
  else return (← integer? negative (naturalNumber whole), rest)

-- Infinities, and what is no number.
def special? (cs : List Char) : Option (Value × List Char) :=
  let (negative, unsigned) := signed cs
  match unsigned with
  | 'i' :: 'n' :: 'f' :: rest => some (.float negative .zero, rest)
  | 'n' :: 'a' :: 'n' :: rest => some (.float negative .zero, rest)
  | _ => none

def number? : List Char → Option (Value × List Char)
  | '0' :: 'x' :: rest => radixInteger? 16 rest
  | '0' :: 'o' :: rest => radixInteger? 8 rest
  | '0' :: 'b' :: rest => radixInteger? 2 rest
  | cs => (special? cs).or (decimal? cs)

end RpcRouting.Document.Toml
