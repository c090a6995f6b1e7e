import RpcRouting.Document.Value
import RpcRouting.Wire.RouteConfiguration

namespace RpcRouting.Wire

open Document

-- How each message is written. Every field is written, and null where it is optional and absent.
-- An alternative stands beside the fields, and only if it is set.

def writeOptional {α : Type} (write : α → Value) : Option α → Value
  | none => .null
  | some a => write a

def writeList {α : Type} (write : α → Value) (items : List α) : Value := .array (items.map write)

def writeTexts (items : List String) : Value := writeList .string items

def Duration.write (d : Duration) : Value :=
  .object [("seconds", .int d.seconds.toInt), ("nanos", .int d.nanos.toInt)]

def RegexMatcher.write (r : RegexMatcher) : Value := .object [("regex", .string r.regex)]

def PathSpecifier.member {v : ApiVersion} : PathSpecifier v → String × Value
  | .startsWith start => ("prefix", .string start)
  | .path whole => ("path", .string whole)
  | .safeRegex pattern => ("safe_regex", pattern.write)
  | .regex pattern => ("regex", .string pattern)
  | .connect => ("connect_matcher", .object [])

def IntRange.write (r : IntRange) : Value :=
  .object [("start", .int r.start.toInt), ("end", .int r.stop.toInt)]

def HeaderSpecifier.member {v : ApiVersion} : HeaderSpecifier v → String × Value
  | .exact value => ("exact_match", .string value)
  | .safeRegex pattern => ("safe_regex_match", pattern.write)
  | .range bounds => ("range_match", bounds.write)
  | .present wanted => ("present_match", .bool wanted)
  | .startsWith start => ("prefix_match", .string start)
  | .endsWith stop => ("suffix_match", .string stop)
  | .regex pattern => ("regex_match", .string pattern)

def HeaderMatcher.write {v : ApiVersion} (header : HeaderMatcher v) : Value :=
  .object (("name", .string header.name) ::
    (header.specifier.map (·.member)).toList ++ [("invert_match", .bool header.invert)])

def QueryParameterMatcher.write (parameter : QueryParameterMatcher) : Value :=
  .object [("name", .string parameter.name),
    ("present_match", writeOptional .bool parameter.present)]

def Denominator.write : Denominator → Value
  | .hundred => .string "HUNDRED"
  | .tenThousand => .string "TEN_THOUSAND"
  | .million => .string "MILLION"

def writeNat32 (n : UInt32) : Value := .int n.toNat

def FractionalPercent.write (percent : FractionalPercent) : Value :=
  .object [("numerator", writeNat32 percent.numerator),
    ("denominator", percent.denominator.write)]

def RuntimeFraction.write (fraction : RuntimeFraction) : Value :=
  .object [("default_value", writeOptional FractionalPercent.write fraction.defaultValue),
    ("runtime_key", .string fraction.runtimeKey)]

def RouteMatch.write {v : ApiVersion} (routeMatch : RouteMatch v) : Value :=
  .object ((routeMatch.path.map (·.member)).toList ++
    [("case_sensitive", writeOptional .bool routeMatch.caseSensitive),
     ("runtime_fraction", writeOptional RuntimeFraction.write routeMatch.runtimeFraction),
     ("headers", writeList HeaderMatcher.write routeMatch.headers),
     ("query_parameters", writeList QueryParameterMatcher.write routeMatch.queryParameters)])

def ClusterWeight.write (cluster : ClusterWeight) : Value :=
  .object [("name", .string cluster.name), ("weight", writeOptional writeNat32 cluster.weight)]

def WeightedCluster.write (weighted : WeightedCluster) : Value :=
  .object [("clusters", writeList ClusterWeight.write weighted.clusters),
    ("total_weight", writeOptional writeNat32 weighted.totalWeight)]

def ClusterSpecifier.member : ClusterSpecifier → String × Value
  | .cluster name => ("cluster", .string name)
  | .clusterHeader name => ("cluster_header", .string name)
  | .weightedClusters clusters => ("weighted_clusters", clusters.write)

def RouteAction.write (action : RouteAction) : Value :=
  .object ((action.cluster.map (·.member)).toList ++
    [("timeout", writeOptional Duration.write action.timeout),
     ("max_grpc_timeout", writeOptional Duration.write action.maxGrpcTimeout)])

def Redirect.write (redirect : Redirect) : Value :=
  .object [("host_redirect", .string redirect.host), ("path_redirect", .string redirect.path)]

def DirectResponse.write (response : DirectResponse) : Value :=
  .object [("status", writeNat32 response.status)]

def Action.member : Action → String × Value
  | .route action => ("route", action.write)
  | .redirect target => ("redirect", target.write)
  | .directResponse response => ("direct_response", response.write)

def Route.write {v : ApiVersion} (route : Route v) : Value :=
  .object ([("name", .string route.name),
    ("match", writeOptional RouteMatch.write route.routeMatch)] ++
    (route.action.map (·.member)).toList)

def VirtualHost.write {v : ApiVersion} (host : VirtualHost v) : Value :=
  .object [("name", .string host.name), ("domains", writeTexts host.domains),
    ("routes", writeList Route.write host.routes)]

def RouteConfiguration.write {v : ApiVersion} (config : RouteConfiguration v) : Value :=
  .object [("name", .string config.name),
    ("virtual_hosts", writeList VirtualHost.write config.virtualHosts)]

end RpcRouting.Wire
