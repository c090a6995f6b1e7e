import RpcRouting.Resolver.Resolver

namespace RpcRouting

-- Where a call on a shared resolver stands. What lies between one stage and the next is done in
-- one indivisible step. Between two steps of a call, other calls may take any number of theirs.
inductive Stage where
  -- an update that has been called
  | updating (update : Wire.RouteConfigurationUpdate)
  -- an update that has found the resolver in use, and is yet to compile
  | building (update : Wire.RouteConfigurationUpdate)
  -- an update that has compiled, and is yet to take its version
  | numbering (table : RouteTable)
  -- an update that has its version, and is yet to put its table in place
  | storing (snapshot : Snapshot)
  -- an update that has put its table in place, and is yet to look for a shutdown
  | checking (snapshot : Snapshot)
  -- an update that has seen a shutdown, and is yet to take its table away
  | clearing
  -- an update that has returned
  | updated (result : Except UpdateError Nat)
  -- a shutdown that has been called
  | stopping
  -- a shutdown that is known to all, and is yet to take the table away
  | dropping
  -- a shutdown that has returned
  | stopped

namespace Stage

-- An update that has been called and has not returned.
def isUpdate : Stage → Bool
  | updating _ | building _ | numbering _ | storing _ | checking _ | clearing => true
  | updated _ | stopping | dropping | stopped => false

-- The next step of a call on the resolver as it stands. Nothing is left to do for a call that has
-- returned.
def step (resolver : Resolver) : Stage → Stage × Resolver
  | updating update =>
    (if resolver.isShutDown then updated (.error .shutDown) else building update, resolver)
  | building update =>
    let metrics := resolver.metrics
    match RouteTable.build update.upgrade resolver.authority with
    | .error error =>
      (updated (.error error),
        { resolver with metrics := { metrics with rejected := metrics.rejected + 1 } })
    | .ok (table, skipped) =>
      (numbering table,
        { resolver with metrics := { metrics with skipped := metrics.skipped + skipped } })
  | numbering table =>
    (storing ⟨resolver.nextVersion, table⟩,
      { resolver with nextVersion := resolver.nextVersion + 1 })
  | storing snapshot => (checking snapshot, { resolver with snapshot := some snapshot })
  | checking snapshot =>
    if resolver.isShutDown then (clearing, resolver)
    else
      (updated (.ok snapshot.version),
        { resolver with
          metrics := { resolver.metrics with
            accepted := resolver.metrics.accepted + 1
            active := some snapshot.table.virtualHost.routes.length } })
  | clearing => (updated (.error .shutDown), { resolver with snapshot := none })
  | updated result => (updated result, resolver)
  | stopping => (dropping, { resolver with isShutDown := true })
  | dropping =>
    (stopped,
      { resolver with snapshot := none, metrics := { resolver.metrics with active := some 0 } })
  | stopped => (stopped, resolver)

-- The snapshot that the next step of a call puts in place.
def stored? : Stage → Option Snapshot
  | storing snapshot => some snapshot
  | _ => none

end Stage

-- What can happen next: a new call, or one more step of a call that was made before.
inductive Move where
  | update (update : Wire.RouteConfigurationUpdate)
  | shutdown
  | advance (caller : Nat)

-- A resolver that any number of callers share. The calls stand in the order in which they were
-- made, those that have returned among them.
structure SharedResolver where
  resolver : Resolver
  calls : List Stage := []

namespace SharedResolver

def start (authority : String) : SharedResolver where
  resolver := { authority }

def move (shared : SharedResolver) : Move → SharedResolver
  | .update update => { shared with calls := shared.calls ++ [.updating update] }
  | .shutdown => { shared with calls := shared.calls ++ [.stopping] }
  | .advance caller =>
    match shared.calls[caller]? with
    | none => shared
    | some stage =>
      let (next, resolver) := stage.step shared.resolver
      ⟨resolver, shared.calls.set caller next⟩

-- One interleaving of the steps of all callers.
def run (shared : SharedResolver) (moves : List Move) : SharedResolver := moves.foldl move shared

-- The snapshot that a move puts in place.
def stored? (shared : SharedResolver) : Move → Option Snapshot
  | .advance caller => shared.calls[caller]?.bind Stage.stored?
  | _ => none

-- The snapshots that are put in place, one after another.
def published : SharedResolver → List Move → List Snapshot
  | _, [] => []
  | shared, first :: rest => (shared.stored? first).toList ++ published (shared.move first) rest

end SharedResolver

end RpcRouting
