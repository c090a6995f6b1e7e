import RpcRouting.Document.Value

namespace RpcRouting.Document.Json

open Decimal

def digitValue (c : Char) : Nat := c.toNat - '0'.toNat

def naturalNumber (digits : List Char) : Nat :=
  digits.foldl (fun n c => 10 * n + digitValue c) 0

-- The parts of a number as it is written. `fraction` and `power` are missing where the text has
-- no point and no exponent.
structure NumberText where
  negative : Bool
  whole : List Char
  fraction : Option (List Char)
  power : Option (Bool × List Char)
deriving Repr, DecidableEq

-- At least one digit.
def digits? (cs : List Char) : Option (List Char × List Char) :=
  match cs.takeWhile Char.isDigit with
  | [] => none
  | digits => some (digits, cs.dropWhile Char.isDigit)

-- A single zero, or digits that do not begin with one.
def whole? (cs : List Char) : Option (List Char × List Char) :=
  match digits? cs with
  | some ('0' :: _ :: _, _) => none
  | result => result

def fraction? : List Char → Option (Option (List Char) × List Char)
  | '.' :: rest => (digits? rest).map fun (digits, left) => (some digits, left)
  | rest => some (none, rest)

def power? : List Char → Option (Option (Bool × List Char) × List Char)
  | c :: rest =>
    if c = 'e' || c = 'E' then
      let (negative, unsigned) :=
        match rest with
        | '-' :: more => (true, more)
        | '+' :: more => (false, more)
        | more => (false, more)
      (digits? unsigned).map fun (digits, left) => (some (negative, digits), left)
    else some (none, c :: rest)
  | [] => some (none, [])

def numberText? (cs : List Char) : Option (NumberText × List Char) := do
  let (negative, unsigned) :=
    match cs with
    | '-' :: rest => (true, rest)
    | rest => (false, rest)
  let (whole, afterWhole) ← whole? unsigned
  let (fraction, afterFraction) ← fraction? afterWhole
  let (power, rest) ← power? afterFraction
  return (⟨negative, whole, fraction, power⟩, rest)

-- Appends digits to a number for as long as it stays within 64 bits. The rest is left over.
def append (n : Nat) : List Char → Nat × List Char
  | [] => (n, [])
  | c :: rest =>
    let longer := 10 * n + digitValue c
    if longer < UInt64.size then append longer rest else (n, c :: rest)

namespace NumberText

-- The double that a number with a point or an exponent stands for, or one that is too long to be
-- an integer of 64 bits.
def magnitude? (number : NumberText) : Option Binary64 :=
  let (whole, dropped) := append 0 number.whole
  let fraction := number.fraction.getD []
  let (significand, left) := append whole fraction
  let shift : Int := (dropped.length : Int) - ((fraction.length : Int) - left.length)
  let power : Int :=
    match number.power with
    | none => 0
    | some (true, digits) => -(naturalNumber digits : Int)
    | some (false, digits) => naturalNumber digits
  Binary64.ofDecimal? significand (shift + power)

def toFloat (number : NumberText) : Value :=
  match number.magnitude? with
  | some magnitude => .float number.negative magnitude
  | none => .unreadable

-- Integers are those of 64 bits, with or without a sign. A negative zero is no integer.
def toValue (number : NumberText) : Value :=
  if number.fraction.isSome || number.power.isSome then number.toFloat
  else
    let n := naturalNumber number.whole
    if !number.negative && n < UInt64.size then .int n
    else if number.negative && 0 < n && Int64.minValue.toInt ≤ -n then .int (-n)
    else number.toFloat

end NumberText

end RpcRouting.Document.Json
