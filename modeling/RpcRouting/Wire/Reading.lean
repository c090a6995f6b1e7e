import RpcRouting.Wire.Reader
import RpcRouting.Wire.RouteConfiguration

namespace RpcRouting.Wire

open Reader

-- How each message is read from a document. Fields are named in the order in which an array gives
-- them.

def Duration.read : Reader Duration := fun v => do
  let ms ← members? ["seconds", "nanos"] v
  return ⟨← field ms "seconds" int64 0, ← field ms "nanos" int32 0⟩

def RegexMatcher.read : Reader RegexMatcher := fun v => do
  let ms ← members? ["regex"] v
  return ⟨← field ms "regex" text ""⟩

-- A message without fields.
def emptyMessage : Reader Unit := fun v => (members? [] v).map fun _ => ()

def PathSpecifier.choices : (v : ApiVersion) → List (String × Reader (PathSpecifier v))
  | .v2 =>
    [("prefix", fun x => (text x).map .startsWith),
     ("path", fun x => (text x).map .path),
     ("regex", fun x => (text x).map .regex),
     ("safe_regex", fun x => (RegexMatcher.read x).map .safeRegex)]
  | .v3 =>
    [("prefix", fun x => (text x).map .startsWith),
     ("path", fun x => (text x).map .path),
     ("safe_regex", fun x => (RegexMatcher.read x).map .safeRegex),
     ("connect_matcher", fun x => (emptyMessage x).map fun _ => .connect)]

def IntRange.read : Reader IntRange := fun v => do
  let ms ← members? ["start", "end"] v
  return ⟨← field ms "start" int64 0, ← field ms "end" int64 0⟩

def HeaderSpecifier.sharedChoices (v : ApiVersion) : List (String × Reader (HeaderSpecifier v)) :=
  [("exact_match", fun x => (text x).map .exact),
   ("safe_regex_match", fun x => (RegexMatcher.read x).map .safeRegex),
   ("range_match", fun x => (IntRange.read x).map .range),
   ("present_match", fun x => (flag x).map .present),
   ("prefix_match", fun x => (text x).map .startsWith),
   ("suffix_match", fun x => (text x).map .endsWith)]

def HeaderSpecifier.choices : (v : ApiVersion) → List (String × Reader (HeaderSpecifier v))
  | .v2 => ("regex_match", fun x => (text x).map .regex) :: sharedChoices .v2
  | .v3 => sharedChoices .v3

def HeaderMatcher.read (v : ApiVersion) : Reader (HeaderMatcher v) := fun x => do
  let ms ← mixedMembers? ["name", "invert_match"] x
  return {
    name := ← field ms "name" text ""
    specifier := alternative (HeaderSpecifier.choices v) ms
    invert := ← field ms "invert_match" flag false }

def QueryParameterMatcher.read : Reader QueryParameterMatcher := fun v => do
  let ms ← members? ["name", "present_match"] v
  return ⟨← field ms "name" text "", ← field ms "present_match" (optional flag) none⟩

def Denominator.read : Reader Denominator :=
  word [("HUNDRED", .hundred), ("TEN_THOUSAND", .tenThousand), ("MILLION", .million)]

def FractionalPercent.read : Reader FractionalPercent := fun v => do
  let ms ← members? ["numerator", "denominator"] v
  return ⟨← field ms "numerator" uint32 0, ← field ms "denominator" Denominator.read .hundred⟩

def RuntimeFraction.read : Reader RuntimeFraction := fun v => do
  let ms ← members? ["default_value", "runtime_key"] v
  return ⟨← field ms "default_value" (optional FractionalPercent.read) none,
    ← field ms "runtime_key" text ""⟩

def RouteMatch.read (v : ApiVersion) : Reader (RouteMatch v) := fun x => do
  let ms ← mixedMembers?
    ["case_sensitive", "runtime_fraction", "headers", "query_parameters"] x
  return {
    path := alternative (PathSpecifier.choices v) ms
    caseSensitive := ← field ms "case_sensitive" (optional flag) none
    runtimeFraction := ← field ms "runtime_fraction" (optional RuntimeFraction.read) none
    headers := ← field ms "headers" (list (HeaderMatcher.read v)) []
    queryParameters := ← field ms "query_parameters" (list QueryParameterMatcher.read) [] }

def ClusterWeight.read : Reader ClusterWeight := fun v => do
  let ms ← members? ["name", "weight"] v
  return ⟨← field ms "name" text "", ← field ms "weight" (optional uint32) none⟩

def WeightedCluster.read : Reader WeightedCluster := fun v => do
  let ms ← members? ["clusters", "total_weight"] v
  return ⟨← field ms "clusters" (list ClusterWeight.read) [],
    ← field ms "total_weight" (optional uint32) none⟩

def ClusterSpecifier.choices : List (String × Reader ClusterSpecifier) :=
  [("cluster", fun x => (text x).map .cluster),
   ("cluster_header", fun x => (text x).map .clusterHeader),
   ("weighted_clusters", fun x => (WeightedCluster.read x).map .weightedClusters)]

def RouteAction.read : Reader RouteAction := fun v => do
  let ms ← mixedMembers? ["timeout", "max_grpc_timeout"] v
  return {
    cluster := alternative ClusterSpecifier.choices ms
    timeout := ← field ms "timeout" (optional Duration.read) none
    maxGrpcTimeout := ← field ms "max_grpc_timeout" (optional Duration.read) none }

def Redirect.read : Reader Redirect := fun v => do
  let ms ← members? ["host_redirect", "path_redirect"] v
  return ⟨← field ms "host_redirect" text "", ← field ms "path_redirect" text ""⟩

def DirectResponse.read : Reader DirectResponse := fun v => do
  let ms ← members? ["status"] v
  return ⟨← field ms "status" uint32 0⟩

def Action.choices : List (String × Reader Action) :=
  [("route", fun x => (RouteAction.read x).map .route),
   ("redirect", fun x => (Redirect.read x).map .redirect),
   ("direct_response", fun x => (DirectResponse.read x).map .directResponse)]

def Route.read (v : ApiVersion) : Reader (Route v) := fun x => do
  let ms ← mixedMembers? ["name", "match"] x
  return {
    name := ← field ms "name" text ""
    routeMatch := ← field ms "match" (optional (RouteMatch.read v)) none
    action := alternative Action.choices ms }

def VirtualHost.read (v : ApiVersion) : Reader (VirtualHost v) := fun x => do
  let ms ← members? ["name", "domains", "routes"] x
  return ⟨← field ms "name" text "", ← field ms "domains" (list text) [],
    ← field ms "routes" (list (Route.read v)) []⟩

def RouteConfiguration.read (v : ApiVersion) : Reader (RouteConfiguration v) := fun x => do
  let ms ← members? ["name", "virtual_hosts"] x
  return ⟨← field ms "name" text "", ← field ms "virtual_hosts" (list (VirtualHost.read v)) []⟩

end RpcRouting.Wire
