import RpcRouting.Wire.RouteConfiguration

namespace RpcRouting

-- How a domain pattern matches an authority. `startsWith` and `endsWith` carry the length of the
-- pattern in bytes.
inductive DomainMatch where
  | universal
  | startsWith (length : Nat)
  | endsWith (length : Nat)
  | exact
deriving Repr, DecidableEq

namespace DomainMatch

-- Kinds are ranked first, lengths within a kind.
def rank : DomainMatch → Nat × Nat
  | .universal => (0, 0)
  | .startsWith length => (1, length)
  | .endsWith length => (2, length)
  | .exact => (3, 0)

def weaker (a b : DomainMatch) : Bool :=
  a.rank.1 < b.rank.1 || (a.rank.1 = b.rank.1 && a.rank.2 < b.rank.2)

def stronger (a b : DomainMatch) : DomainMatch := if a.weaker b then b else a

-- The strongest of several matches, if there is any.
def strongest : List DomainMatch → Option DomainMatch
  | [] => none
  | first :: rest => some (rest.foldl stronger first)

def lower (text : String) : List Char := text.toList.map Char.toLower

-- Matches a pattern without regard to case. A wildcard stands for at least one character, and only
-- at the start or at the end of a pattern, once.
def ofPattern? (pattern authority : String) : Option DomainMatch :=
  let wanted := lower pattern
  let given := lower authority
  if wanted = ['*'] then some .universal
  else if !wanted.contains '*' then if wanted = given then some .exact else none
  else if wanted.head? = some '*' then
    let tail := wanted.tail
    if !tail.contains '*' && tail.length < given.length && tail.isSuffixOf given then
      some (.endsWith pattern.utf8ByteSize)
    else none
  else if wanted.getLast? = some '*' then
    let start := wanted.dropLast
    if !start.contains '*' && start.length < given.length && start.isPrefixOf given then
      some (.startsWith pattern.utf8ByteSize)
    else none
  else none

-- The strongest match among the domains of a host.
def ofDomains? (domains : List String) (authority : String) : Option DomainMatch :=
  strongest (domains.filterMap fun domain => ofPattern? domain authority)

end DomainMatch

namespace Wire.VirtualHost

variable {v : ApiVersion}

-- The host to keep after one more host: it has to be stronger to replace the one before.
def better (authority : String) (best : Option (DomainMatch × VirtualHost v))
    (host : VirtualHost v) : Option (DomainMatch × VirtualHost v) :=
  match DomainMatch.ofDomains? host.domains authority with
  | none => best
  | some strength =>
    match best with
    | none => some (strength, host)
    | some (current, _) => if current.weaker strength then some (strength, host) else best

-- The first host with the strongest match.
def select? (hosts : List (VirtualHost v)) (authority : String) : Option (VirtualHost v) :=
  (hosts.foldl (better authority) none).map (·.2)

end Wire.VirtualHost

end RpcRouting
