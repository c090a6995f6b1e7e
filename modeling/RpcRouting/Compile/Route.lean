import RpcRouting.Compile.Outcome
import RpcRouting.Route.VirtualHost
import RpcRouting.Wire.RouteConfiguration

namespace RpcRouting.Compile

open Regex (Pattern)

-- From the messages of version 3 to routes that can be matched. Regular expressions are compiled
-- here, once.

def pathSpecifier : Option (Wire.PathSpecifier .v3) → Outcome PathMatcher
  | some (.startsWith start) => .compiled (.startsWith start)
  | some (.path whole) => .compiled (.exact whole)
  | some (.safeRegex wire) =>
    match Pattern.compile? wire.regex with
    | some pattern => .compiled (.regex pattern)
    | none => .invalid (.badPathPattern wire.regex)
  | some .connect => .invalid .connectMatcher
  | none => .invalid .noPathSpecifier

def headerSpecifier (header : String) : Option (Wire.HeaderSpecifier .v3) → Outcome HeaderTest
  | some (.exact value) => .compiled (.exact value)
  | some (.safeRegex wire) =>
    match Pattern.compile? wire.regex with
    | some pattern => .compiled (.regex pattern)
    | none => .invalid (.badHeaderPattern wire.regex header)
  | some (.range bounds) => .compiled (.range ⟨bounds.start, bounds.stop⟩)
  | some (.present wanted) => .compiled (.present wanted)
  | some (.startsWith start) => .compiled (.startsWith start)
  | some (.endsWith stop) => .compiled (.endsWith stop)
  | none => .invalid (.noHeaderSpecifier header)

def headerMatcher (wire : Wire.HeaderMatcher .v3) : Outcome HeaderMatcher := do
  return ⟨wire.name, ← headerSpecifier wire.name wire.specifier, wire.invert⟩

-- A fraction without a value lets nothing pass.
def fraction (wire : Wire.RuntimeFraction) : FractionMatcher :=
  let percent := wire.defaultValue.getD {}
  ⟨percent.numerator, percent.denominator.scale⟩

-- Query parameters are not supported. That counts before anything that may be wrong.
def routeMatch (wire : Wire.RouteMatch .v3) : Outcome RouteMatch := do
  if !wire.queryParameters.isEmpty then .skipped
  else if wire.caseSensitive = some false then .invalid .caseInsensitive
  else
    let path ← pathSpecifier wire.path
    let headers ← wire.headers.mapM headerMatcher
    return ⟨path, headers, wire.runtimeFraction.map fraction⟩

-- A weight that is not set counts as zero.
def clusterWeight (wire : Wire.ClusterWeight) : ClusterWeight := ⟨wire.name, wire.weight.getD 0⟩

-- The largest total of the weights of a split.
def maxTotal : Nat := UInt32.size - 1

def weightedClusters (wire : Wire.WeightedCluster) : Outcome Destination :=
  let clusters := wire.clusters.map clusterWeight
  let total := ClusterWeight.total clusters
  if clusters.isEmpty then .invalid .noClusters
  else if total = 0 then .invalid .zeroWeights
  else if total > maxTotal then .invalid (.weightsTooLarge total)
  else .compiled (.weighted clusters)

def destination : Option Wire.ClusterSpecifier → Outcome Destination
  | some (.cluster name) => .compiled (.cluster name)
  | some (.weightedClusters wire) => weightedClusters wire
  | some (.clusterHeader _) => .skipped
  | none => .invalid .noClusterSpecifier

-- The limit for gRPC, if it is set, stands before the other. Zero in either means no limit.
def timeoutNanos (wire : Wire.RouteAction) : TimeoutNanos :=
  match wire.maxGrpcTimeout.or wire.timeout with
  | some duration => if duration.isZero then .infinite else duration.asNanos
  | none => .default

def routeAction (wire : Wire.RouteAction) : Outcome RouteAction := do
  return ⟨timeoutNanos wire, ← destination wire.cluster⟩

def action : Option Wire.Action → Outcome RouteAction
  | some (.route wire) => routeAction wire
  | some (.redirect _) => .skipped
  | some (.directResponse _) => .skipped
  | none => .invalid .noAction

-- A match that is not given is the empty one, which has no path specifier.
def route (wire : Wire.Route .v3) : Outcome Route := do
  return ⟨← routeMatch (wire.routeMatch.getD {}), ← action wire.action⟩

end RpcRouting.Compile
