import RpcRouting.Document.Toml.Text

namespace RpcRouting.Document.Toml

structure Date where
  year : Nat
  month : Nat
  day : Nat
deriving Repr, DecidableEq

-- A time of day. The fraction of the second has at most nine digits and no zeros at its end.
structure Time where
  hour : Nat
  minute : Nat
  second : Nat
  fraction : List Char
deriving Repr, DecidableEq

-- The distance from universal time.
inductive Offset where
  | universal
  | minutes (west : Bool) (minutes : Nat)
deriving Repr, DecidableEq

-- A number of exactly so many digits.
def fixed? (width : Nat) (cs : List Char) : Option (Nat × List Char) :=
  let digits := cs.take width
  if digits.length = width && digits.all Char.isDigit then
    some (Json.naturalNumber digits, cs.drop width)
  else none

def separator? (c : Char) : List Char → Option (List Char)
  | d :: rest => if c = d then some rest else none
  | [] => none

namespace Date

def isLeapYear (year : Nat) : Bool := year % 4 == 0 && (year % 100 != 0 || year % 400 == 0)

def daysInMonth (year month : Nat) : Nat :=
  if month = 2 then if isLeapYear year then 29 else 28
  else if month = 4 || month = 6 || month = 9 || month = 11 then 30
  else 31

def read? (cs : List Char) : Option (Date × List Char) := do
  let (year, afterYear) ← fixed? 4 cs
  let (month, afterMonth) ← fixed? 2 (← separator? '-' afterYear)
  let (day, rest) ← fixed? 2 (← separator? '-' afterMonth)
  guard (1 ≤ month && month ≤ 12)
  guard (1 ≤ day && day ≤ daysInMonth year month)
  return (⟨year, month, day⟩, rest)

end Date

-- A number with zeros before it, up to a width.
def padded (width n : Nat) : List Char :=
  let digits := Nat.toDigits 10 n
  List.replicate (width - digits.length) '0' ++ digits

def Date.text (date : Date) : List Char :=
  padded 4 date.year ++ '-' :: padded 2 date.month ++ '-' :: padded 2 date.day

def hourAndMinute? (cs : List Char) : Option ((Nat × Nat) × List Char) := do
  let (hour, afterHour) ← fixed? 2 cs
  let (minute, rest) ← fixed? 2 (← separator? ':' afterHour)
  guard (hour ≤ 23 && minute ≤ 59)
  return ((hour, minute), rest)

namespace Time

def dropZeros (digits : List Char) : List Char := (digits.reverse.dropWhile (· == '0')).reverse

-- Digits of the fraction beyond the ninth do not count.
def fraction? : List Char → Option (List Char × List Char)
  | '.' :: rest =>
    match rest.takeWhile Char.isDigit with
    | [] => none
    | digits => some (dropZeros (digits.take 9), rest.dropWhile Char.isDigit)
  | cs => some ([], cs)

-- A leap second is allowed in any minute.
def read? (cs : List Char) : Option (Time × List Char) := do
  let ((hour, minute), afterMinute) ← hourAndMinute? cs
  let (second, afterSecond) ← fixed? 2 (← separator? ':' afterMinute)
  guard (second ≤ 60)
  let (fraction, rest) ← fraction? afterSecond
  return (⟨hour, minute, second, fraction⟩, rest)

def text (time : Time) : List Char :=
  padded 2 time.hour ++ ':' :: padded 2 time.minute ++ ':' :: padded 2 time.second ++
    if time.fraction.isEmpty then [] else '.' :: time.fraction

end Time

namespace Offset

def read? : List Char → Option (Offset × List Char)
  | 'Z' :: rest => some (.universal, rest)
  | 'z' :: rest => some (.universal, rest)
  | '+' :: rest => distance false rest
  | '-' :: rest => distance true rest
  | _ => none
where
  distance (west : Bool) (cs : List Char) : Option (Offset × List Char) :=
    (hourAndMinute? cs).map fun ((hour, minute), rest) => (.minutes west (60 * hour + minute), rest)

def text : Offset → List Char
  | .universal => ['Z']
  | .minutes west n =>
    (if west && n ≠ 0 then '-' else '+') :: padded 2 (n / 60) ++ ':' :: padded 2 (n % 60)

end Offset

def isTimeMark (c : Char) : Bool := c == 'T' || c == 't' || c == ' '

-- A date with or without a time, or a time, in its uniform spelling. Only what has both may have
-- an offset.
def dateTime? (cs : List Char) : Option (String × List Char) :=
  match Date.read? cs with
  | none => (Time.read? cs).map fun (time, rest) => (String.ofList time.text, rest)
  | some (date, rest) =>
    let clock :=
      match rest with
      | c :: more => if isTimeMark c then Time.read? more else none
      | [] => none
    match clock with
    | none => some (String.ofList date.text, rest)
    | some (time, afterTime) =>
      let moment := date.text ++ 'T' :: time.text
      match Offset.read? afterTime with
      | none => some (String.ofList moment, afterTime)
      | some (offset, left) => some (String.ofList (moment ++ offset.text), left)

end RpcRouting.Document.Toml
