namespace RpcRouting

-- What has been counted so far. The number of active routes is known once it has been set.
structure Metrics where
  accepted : Nat := 0
  rejected : Nat := 0
  matched : Nat := 0
  noMatch : Nat := 0
  notLoaded : Nat := 0
  skipped : Nat := 0
  active : Option Nat := none
deriving Repr, DecidableEq

namespace Metrics

-- The counts by name, without those that have not been touched.
def toList (metrics : Metrics) : List (String × Nat) :=
  let counters :=
    [("xds_route_updates_total\x7bresult=accepted\x7d", metrics.accepted),
     ("xds_route_updates_total\x7bresult=rejected\x7d", metrics.rejected),
     ("xds_route_resolutions_total\x7boutcome=matched\x7d", metrics.matched),
     ("xds_route_resolutions_total\x7boutcome=no_match\x7d", metrics.noMatch),
     ("xds_route_resolutions_total\x7boutcome=not_loaded\x7d", metrics.notLoaded),
     ("xds_routes_skipped_total", metrics.skipped)]
  counters.filter (·.2 ≠ 0) ++ (metrics.active.map fun n => ("xds_routes_active", n)).toList

end Metrics

end RpcRouting
