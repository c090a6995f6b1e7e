import RpcRouting.Resolver.Resolver

namespace RpcRouting

-- What can be asked of a resolver.
inductive Call where
  | update (update : Wire.RouteConfigurationUpdate)
  | resolve (path : String) (headers : Headers)
  | snapshot
  | shutdown
deriving Repr, DecidableEq

inductive Reply where
  | updated (result : Except UpdateError Nat)
  | resolved (result : Except ResolveError Decision)
  | snapshot (current : Option Snapshot)
  | shutDown

-- The version that an update was given.
def Reply.version? : Reply → Option Nat
  | .updated (.ok version) => some version
  | _ => none

-- A resolver in use, with what is left of its source of random numbers.
structure Session (σ : Type) where
  resolver : Resolver
  source : σ

namespace Session

variable {σ : Type}

def start (authority : String) (source : σ) : Session σ := ⟨{ authority }, source⟩

-- One call. `answer` draws a number below a bound from the source.
def call (answer : Nat → σ → Nat × σ) (session : Session σ) : Call → Reply × Session σ
  | .update update =>
    let (result, resolver) := session.resolver.update update
    (.updated result, { session with resolver })
  | .resolve path headers =>
    let result := (session.resolver.resolve path headers).run answer session.source
    (.resolved result.value.1, ⟨result.value.2, result.source⟩)
  | .snapshot => (.snapshot session.resolver.snapshot, session)
  | .shutdown => (.shutDown, { session with resolver := session.resolver.shutdown })

-- Calls one after another, with their replies in order.
def run (answer : Nat → σ → Nat × σ) : Session σ → List Call → List Reply × Session σ
  | session, [] => ([], session)
  | session, first :: rest =>
    let (reply, next) := session.call answer first
    let (replies, last) := run answer next rest
    (reply :: replies, last)

end Session

end RpcRouting
