namespace RpcRouting

-- An address of the internet protocol: four bytes, or eight groups of sixteen bits.
inductive IpAddress where
  | v4 (octets : List Nat)
  | v6 (groups : List Nat) (scope : Nat)
deriving Repr, DecidableEq

-- An address with a port.
structure SocketAddress where
  ip : IpAddress
  port : Nat
deriving Repr, DecidableEq

namespace SocketAddress

def digitValue? (radix : Nat) (c : Char) : Option Nat :=
  let value :=
    if c.isDigit then c.toNat - '0'.toNat
    else if c.isAlpha then c.toLower.toNat - 'a'.toNat + 10
    else radix
  if value < radix then some value else none

-- A number below `limit`, of at most `width` digits.
def number? (radix limit : Nat) (width : Option Nat) (cs : List Char) :
    Option (Nat × List Char) :=
  let isDigit (c : Char) : Bool := (digitValue? radix c).isSome
  let digits := cs.takeWhile isDigit
  let n := digits.foldl (fun n c => radix * n + (digitValue? radix c).getD 0) 0
  if digits.isEmpty || (width.any (· < digits.length)) || limit ≤ n then none
  else some (n, cs.dropWhile isDigit)

def after? (c : Char) : List Char → Option (List Char)
  | d :: rest => if c = d then some rest else none
  | [] => none

-- A number of a byte, without zeros before it.
def octet? (cs : List Char) : Option (Nat × List Char) :=
  match cs with
  | '0' :: d :: _ => if d.isDigit then none else number? 10 256 (some 3) cs
  | _ => number? 10 256 (some 3) cs

def octets? (cs : List Char) : Option (List Nat × List Char) := do
  let (a, cs) ← octet? cs
  let (b, cs) ← octet? (← after? '.' cs)
  let (c, cs) ← octet? (← after? '.' cs)
  let (d, cs) ← octet? (← after? '.' cs)
  return ([a, b, c, d], cs)

-- What could be read of a row of groups. The row may end in four bytes, which count as two groups.
structure Groups where
  groups : List Nat
  endsInOctets : Bool
  rest : List Char

def pairUp : List Nat → List Nat
  | a :: b :: rest => (256 * a + b) :: pairUp rest
  | _ => []

-- At most `room` groups, as many as there are.
def groups : (room : Nat) → (first : Bool) → List Char → Groups
  | 0, _, cs => ⟨[], false, cs⟩
  | room + 1, first, cs =>
    match if first then some cs else after? ':' cs with
    | none => ⟨[], false, cs⟩
    | some body =>
      match if room = 0 then none else octets? body with
      | some (octets, rest) => ⟨pairUp octets, true, rest⟩
      | none =>
        match number? 16 UInt16.size (some 4) body with
        | none => ⟨[], false, cs⟩
        | some (group, rest) =>
          let more := groups room false rest
          ⟨group :: more.groups, more.endsInOctets, more.rest⟩

-- Eight groups, or fewer with a double colon that stands for at least one group of zero.
def ipv6? (cs : List Char) : Option (List Nat × List Char) := do
  let head := groups 8 true cs
  if head.groups.length = 8 then return (head.groups, head.rest)
  guard (!head.endsInOctets)
  let rest ← after? ':' (← after? ':' head.rest)
  let tail := groups (7 - head.groups.length) true rest
  let zeros := List.replicate (8 - head.groups.length - tail.groups.length) 0
  return (head.groups ++ zeros ++ tail.groups, tail.rest)

def port? (cs : List Char) : Option (Nat × List Char) := do
  number? 10 UInt16.size none (← after? ':' cs)

-- The zone of an address, which may be missing.
def scope (cs : List Char) : Nat × List Char :=
  ((after? '%' cs).bind (number? 10 UInt32.size none)).getD (0, cs)

def read? (cs : List Char) : Option (SocketAddress × List Char) :=
  match cs with
  | '[' :: inner => do
    let (groups, afterIp) ← ipv6? inner
    let (zone, afterScope) := scope afterIp
    let (port, rest) ← port? (← after? ']' afterScope)
    return (⟨.v6 groups zone, port⟩, rest)
  | _ => do
    let (octets, afterIp) ← octets? cs
    let (port, rest) ← port? afterIp
    return (⟨.v4 octets, port⟩, rest)

-- An address as `127.0.0.1:80` or `[::1]:80`.
def parse? (text : String) : Option SocketAddress :=
  match read? text.toList with
  | some (address, []) => some address
  | _ => none

end SocketAddress

end RpcRouting
