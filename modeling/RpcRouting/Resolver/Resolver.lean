import RpcRouting.Resolver.Metrics
import RpcRouting.Resolver.RouteTable

namespace RpcRouting

-- Why a request could not be routed.
inductive ResolveError where
  | notLoaded
  | noMatchingRoute (path : String)
deriving Repr, DecidableEq

def ResolveError.message : ResolveError → String
  | .notLoaded => "no route configuration loaded"
  | .noMatchingRoute path => "no route matches path " ++ Text.quoted path

-- Where a request goes and how long it may take.
structure Decision where
  cluster : String
  timeoutNanos : TimeoutNanos
deriving Repr, DecidableEq

def Decision.timeout? (decision : Decision) : Option Nat := decision.timeoutNanos.limit?

-- One generation of the table.
structure Snapshot where
  version : Nat
  table : RouteTable
deriving Repr, DecidableEq

-- Routes requests for one authority.
structure Resolver where
  authority : String
  snapshot : Option Snapshot := none
  nextVersion : Nat := 1
  isShutDown : Bool := false
  metrics : Metrics := {}
deriving Repr, DecidableEq

namespace Resolver

def isLoaded (resolver : Resolver) : Bool := resolver.snapshot.isSome

def version? (resolver : Resolver) : Option Nat := resolver.snapshot.map (·.version)

-- Compiles a configuration and puts it in place of the current one. What is refused changes
-- nothing but the count of refusals. After shutdown nothing is even looked at.
def update (resolver : Resolver) (update : Wire.RouteConfigurationUpdate) :
    Except UpdateError Nat × Resolver :=
  if resolver.isShutDown then (.error .shutDown, resolver)
  else
    let metrics := resolver.metrics
    match RouteTable.build update.upgrade resolver.authority with
    | .error error =>
      (.error error, { resolver with metrics := { metrics with rejected := metrics.rejected + 1 } })
    | .ok (table, skipped) =>
      let version := resolver.nextVersion
      (.ok version, { resolver with
        snapshot := some ⟨version, table⟩
        nextVersion := version + 1
        metrics := { metrics with
          accepted := metrics.accepted + 1
          skipped := metrics.skipped + skipped
          active := some table.virtualHost.routes.length } })

-- The decision of a table.
def decide (table : RouteTable) (path : String) (headers : Headers) :
    Draw (Except ResolveError Decision) := do
  match ← table.virtualHost.findRoute path headers with
  | none => return .error (.noMatchingRoute path)
  | some (_, route) =>
    return .ok ⟨← route.action.selectCluster, route.action.timeoutNanos⟩

def count (metrics : Metrics) : Except ResolveError Decision → Metrics
  | .ok _ => { metrics with matched := metrics.matched + 1 }
  | .error (.noMatchingRoute _) => { metrics with noMatch := metrics.noMatch + 1 }
  | .error .notLoaded => { metrics with notLoaded := metrics.notLoaded + 1 }

-- Routes one request. The first route that accepts it decides. Nothing but the counts changes.
def resolve (resolver : Resolver) (path : String) (headers : Headers) :
    Draw (Except ResolveError Decision × Resolver) := do
  let result ←
    match resolver.snapshot with
    | none => pure (.error .notLoaded)
    | some snapshot => decide snapshot.table path headers
  return (result, { resolver with metrics := count resolver.metrics result })

-- Drops the table for good.
def shutdown (resolver : Resolver) : Resolver :=
  { resolver with
    snapshot := none
    isShutDown := true
    metrics := { resolver.metrics with active := some 0 } }

end Resolver

end RpcRouting
