import RpcRouting.Resolver.Resolver
import Mathlib.Algebra.GroupWithZero.Nat

namespace RpcRouting.Wire

-- What a route configuration asks for, read off the messages themselves. Nothing is compiled:
-- `fits pattern text` stands for the test of a text against a regular expression. Configurations
-- that are refused have a meaning here too, which nothing depends on.

variable (fits : String → String → Bool) (path : String) (headers : Headers)

def PathSpecifier.admits : PathSpecifier .v3 → Bool
  | .startsWith start => start.toList <+: path.toList
  | .path whole => path = whole
  | .safeRegex wire => fits wire.regex path
  | .connect => false

-- What is asked of a value that is there.
def HeaderSpecifier.admits (value : String) : HeaderSpecifier .v3 → Bool
  | .exact whole => value = whole
  | .safeRegex wire => fits wire.regex value
  | .range bounds => (parseInt64? value).any fun n => bounds.start ≤ n && n < bounds.stop
  | .present wanted => wanted
  | .startsWith start => start.toList <+: value.toList
  | .endsWith stop => stop.toList <:+ value.toList

def HeaderMatcher.admits (wire : HeaderMatcher .v3) : Bool :=
  match wire.specifier, headers.value? wire.name with
  | none, _ => false
  | some specifier, some value => specifier.admits fits value != wire.invert
  | some (.present wanted), none => (!wanted) != wire.invert
  | some _, none => false

-- A fraction that is not given is none of a hundred.
def RuntimeFraction.sample (wire : RuntimeFraction) : Draw Bool :=
  match wire.defaultValue with
  | some percent => do
    return (← Draw.number percent.denominator.scale.toNat) < percent.numerator.toNat
  | none => do return (← Draw.number 100) < 0

def RouteMatch.admits (wire : RouteMatch .v3) : Draw Bool :=
  if wire.path.any (·.admits fits path) && wire.headers.all (·.admits fits headers) then
    match wire.runtimeFraction with
    | some fraction => fraction.sample
    | none => pure true
  else pure false

-- The sum of the weights, of which one that is not set counts as zero.
def WeightedCluster.total (wire : WeightedCluster) : Nat :=
  (wire.clusters.map fun cluster => (cluster.weight.getD 0).toNat).sum

-- Takes weights off a number, from the first on, until one exceeds what is left of it.
def WeightedCluster.pick : List ClusterWeight → Nat → String
  | [], _ => ""
  | [last], _ => last.name
  | first :: rest, n =>
    let weight := (first.weight.getD 0).toNat
    if n < weight then first.name else pick rest (n - weight)

def ClusterSpecifier.choose : ClusterSpecifier → Draw String
  | .cluster name => pure name
  | .weightedClusters wire => do
    return WeightedCluster.pick wire.clusters (← Draw.number wire.total)
  | .clusterHeader _ => pure ""

def RouteAction.timeLimit (wire : RouteAction) : TimeoutNanos :=
  match wire.maxGrpcTimeout, wire.timeout with
  | some limit, _ => if limit = ⟨0, 0⟩ then .infinite else limit.asNanos
  | none, some limit => if limit = ⟨0, 0⟩ then .infinite else limit.asNanos
  | none, none => .default

def Action.decide : Action → Draw (Except ResolveError Decision)
  | .route wire => do
    match wire.cluster with
    | some specifier => return .ok ⟨← specifier.choose, wire.timeLimit⟩
    | none => return .error .notLoaded
  | _ => return .error .notLoaded

def RouteAction.isPassedOver (wire : RouteAction) : Bool :=
  match wire.cluster with
  | some (.clusterHeader _) => true
  | _ => false

def Action.isPassedOver : Action → Bool
  | .route wire => wire.isPassedOver
  | .redirect _ => true
  | .directResponse _ => true

-- Whether a route asks for something that is not supported.
def Route.isPassedOver (wire : Route .v3) : Bool :=
  !(wire.routeMatch.getD {}).queryParameters.isEmpty || wire.action.any (·.isPassedOver)

-- The first route that is not passed over and admits the request decides.
def Route.decideFirst : List (Route .v3) → Draw (Except ResolveError Decision)
  | [] => return .error (.noMatchingRoute path)
  | wire :: rest => do
    if wire.isPassedOver then decideFirst rest
    else if ← (wire.routeMatch.getD {}).admits fits path headers then
      match wire.action with
      | some action => action.decide
      | none => return .error .notLoaded
    else decideFirst rest

-- A host one of whose domains matches the authority at least as well as any domain of any host.
def VirtualHost.isBest {v : ApiVersion} (hosts : List (VirtualHost v)) (authority : String)
    (host : VirtualHost v) : Bool :=
  host.domains.any fun domain =>
    (DomainMatch.ofPattern? domain authority).any fun strength =>
      hosts.all fun other =>
        other.domains.all fun rival =>
          (DomainMatch.ofPattern? rival authority).all fun found => !strength.weaker found

def VirtualHost.best? {v : ApiVersion} (hosts : List (VirtualHost v)) (authority : String) :
    Option (VirtualHost v) :=
  hosts.find? (isBest hosts authority)

-- What a configuration makes of a request to an authority.
def RouteConfiguration.interpret (config : RouteConfiguration .v3) (authority : String) :
    Draw (Except ResolveError Decision) :=
  match VirtualHost.best? config.virtualHosts authority with
  | some host => Route.decideFirst fits path headers host.routes
  | none => return .error .notLoaded

def PathSpecifier.pattern? : PathSpecifier .v3 → Option String
  | .safeRegex wire => some wire.regex
  | _ => none

def HeaderSpecifier.pattern? : HeaderSpecifier .v3 → Option String
  | .safeRegex wire => some wire.regex
  | _ => none

def RouteMatch.patterns (wire : RouteMatch .v3) : List String :=
  (wire.path.bind (·.pattern?)).toList ++
    wire.headers.filterMap fun header => header.specifier.bind (·.pattern?)

-- The regular expressions that requests to an authority are tested with.
def RouteConfiguration.patterns (config : RouteConfiguration .v3) (authority : String) :
    List String :=
  match VirtualHost.best? config.virtualHosts authority with
  | some host =>
    (host.routes.filter (!·.isPassedOver)).flatMap fun wire =>
      (wire.routeMatch.getD {}).patterns
  | none => []

end RpcRouting.Wire
