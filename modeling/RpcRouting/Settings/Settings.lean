import RpcRouting.Node.Node
import RpcRouting.Random.Source
import RpcRouting.Wire.ApiVersion

namespace RpcRouting

-- Whom requests are addressed to, and where draws come from.
structure ResolverSettings where
  authority : String := "localhost"
  seed : Option UInt64 := none
deriving Repr, DecidableEq

-- Where route configurations come from.
structure SourceSettings where
  routeConfigPath : Option String := none
  apiVersion : ApiVersion := .v3
  watch : Bool := false
  pollIntervalSecs : UInt64 := 2
deriving Repr, DecidableEq

inductive LogFormat where
  | pretty
  | json
deriving Repr, DecidableEq

structure ObservabilitySettings where
  logLevel : String := "info"
  logFormat : LogFormat := .pretty
  metricsEnabled : Bool := false
  metricsAddress : String := "127.0.0.1:9090"
deriving Repr, DecidableEq

structure Settings where
  resolver : ResolverSettings := {}
  source : SourceSettings := {}
  observability : ObservabilitySettings := {}
  node : Node := {}
deriving Repr, DecidableEq

namespace Settings

-- What is logged unless the environment says otherwise.
def logFilter (settings : Settings) : String :=
  "xds_router=" ++ settings.observability.logLevel.map Char.toLower

-- Who the client is, put together one address and one feature at a time.
def toNode (settings : Settings) : Node :=
  let plain : Node := { settings.node with listeningAddresses := [], clientFeatures := [] }
  let listening := settings.node.listeningAddresses.foldl (fun node a => node.addAddress a) plain
  settings.node.clientFeatures.foldl (fun node feature => node.addFeature feature) listening

-- A seed makes draws reproducible. Without one they come from `chance`.
def drawSource (settings : Settings) (chance : Random.Source) : Random.Source :=
  match settings.resolver.seed with
  | some seed => .ofSeed seed
  | none => chance

end Settings

end RpcRouting
