import RpcRouting.Request.Headers
import RpcRouting.Route.FractionMatcher
import RpcRouting.Route.HeaderMatcher
import RpcRouting.Route.PathMatcher

namespace RpcRouting

-- The conditions of a route. A request has to meet all of them.
structure RouteMatch where
  path : PathMatcher
  headers : List HeaderMatcher := []
  fraction : Option FractionMatcher := none
deriving Repr, DecidableEq

namespace RouteMatch

-- The conditions that do not depend on chance.
def isCandidate (routeMatch : RouteMatch) (path : String) (headers : Headers) : Bool :=
  routeMatch.path.accepts path &&
    routeMatch.headers.all fun matcher => matcher.accepts (headers.value? matcher.name)

-- The fraction is sampled last, so requests that fail elsewhere draw nothing.
def accepts (routeMatch : RouteMatch) (path : String) (headers : Headers) : Draw Bool :=
  if routeMatch.isCandidate path headers then
    match routeMatch.fraction with
    | some fraction => fraction.sample
    | none => pure true
  else pure false

end RouteMatch

end RpcRouting
