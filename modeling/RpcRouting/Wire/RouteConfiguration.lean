import RpcRouting.Wire.ApiVersion
import RpcRouting.Wire.Duration

namespace RpcRouting.Wire

-- Route configurations as they are sent. Both versions of the protocol share all messages but
-- two, whose alternatives differ. An alternative that is not set is `none`.

structure RegexMatcher where
  regex : String := ""
deriving Repr, DecidableEq

-- How a route asks for the path of a request.
inductive PathSpecifier : ApiVersion → Type where
  | startsWith {v : ApiVersion} (start : String) : PathSpecifier v
  | path {v : ApiVersion} (path : String) : PathSpecifier v
  | safeRegex {v : ApiVersion} (regex : RegexMatcher) : PathSpecifier v
  -- deprecated, and gone in version 3
  | regex (pattern : String) : PathSpecifier .v2
  -- new in version 3
  | connect : PathSpecifier .v3
deriving Repr, DecidableEq

structure IntRange where
  start : Int64 := 0
  stop : Int64 := 0
deriving Repr, DecidableEq

-- How a route asks for the value of a header.
inductive HeaderSpecifier : ApiVersion → Type where
  | exact {v : ApiVersion} (value : String) : HeaderSpecifier v
  | safeRegex {v : ApiVersion} (regex : RegexMatcher) : HeaderSpecifier v
  | range {v : ApiVersion} (range : IntRange) : HeaderSpecifier v
  | present {v : ApiVersion} (present : Bool) : HeaderSpecifier v
  | startsWith {v : ApiVersion} (start : String) : HeaderSpecifier v
  | endsWith {v : ApiVersion} (stop : String) : HeaderSpecifier v
  -- deprecated, and gone in version 3
  | regex (pattern : String) : HeaderSpecifier .v2
deriving Repr, DecidableEq

structure HeaderMatcher (v : ApiVersion) where
  name : String := ""
  specifier : Option (HeaderSpecifier v) := none
  invert : Bool := false
deriving Repr, DecidableEq

structure QueryParameterMatcher where
  name : String := ""
  present : Option Bool := none
deriving Repr, DecidableEq

inductive Denominator where
  | hundred
  | tenThousand
  | million
deriving Repr, DecidableEq

def Denominator.scale : Denominator → UInt32
  | .hundred => 100
  | .tenThousand => 10000
  | .million => 1000000

structure FractionalPercent where
  numerator : UInt32 := 0
  denominator : Denominator := .hundred
deriving Repr, DecidableEq

structure RuntimeFraction where
  defaultValue : Option FractionalPercent := none
  runtimeKey : String := ""
deriving Repr, DecidableEq

structure RouteMatch (v : ApiVersion) where
  path : Option (PathSpecifier v) := none
  caseSensitive : Option Bool := none
  runtimeFraction : Option RuntimeFraction := none
  headers : List (HeaderMatcher v) := []
  queryParameters : List QueryParameterMatcher := []
deriving Repr, DecidableEq

structure ClusterWeight where
  name : String := ""
  weight : Option UInt32 := none
deriving Repr, DecidableEq

structure WeightedCluster where
  clusters : List ClusterWeight := []
  totalWeight : Option UInt32 := none
deriving Repr, DecidableEq

inductive ClusterSpecifier where
  | cluster (name : String)
  | clusterHeader (name : String)
  | weightedClusters (clusters : WeightedCluster)
deriving Repr, DecidableEq

structure RouteAction where
  cluster : Option ClusterSpecifier := none
  timeout : Option Duration := none
  maxGrpcTimeout : Option Duration := none
deriving Repr, DecidableEq

structure Redirect where
  host : String := ""
  path : String := ""
deriving Repr, DecidableEq

structure DirectResponse where
  status : UInt32 := 0
deriving Repr, DecidableEq

inductive Action where
  | route (action : RouteAction)
  | redirect (redirect : Redirect)
  | directResponse (response : DirectResponse)
deriving Repr, DecidableEq

structure Route (v : ApiVersion) where
  name : String := ""
  routeMatch : Option (RouteMatch v) := none
  action : Option Action := none
deriving Repr, DecidableEq

structure VirtualHost (v : ApiVersion) where
  name : String := ""
  domains : List String := []
  routes : List (Route v) := []
deriving Repr, DecidableEq

structure RouteConfiguration (v : ApiVersion) where
  name : String := ""
  virtualHosts : List (VirtualHost v) := []
deriving Repr, DecidableEq

-- A configuration together with the version it was sent in.
structure RouteConfigurationUpdate where
  version : ApiVersion
  config : RouteConfiguration version
deriving Repr, DecidableEq

end RpcRouting.Wire
