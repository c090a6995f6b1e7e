import RpcRouting.Route.RouteAction
import RpcRouting.Route.RouteMatch

namespace RpcRouting

structure Route where
  routeMatch : RouteMatch
  action : RouteAction
deriving Repr, DecidableEq

namespace Route

-- A route that takes every request: any path, no condition on headers, no fraction.
def isDefault (route : Route) : Bool :=
  (route.routeMatch.path == .startsWith "" || route.routeMatch.path == .startsWith "/") &&
    route.routeMatch.headers.isEmpty && route.routeMatch.fraction.isNone

end Route

-- The routes for a set of authorities.
structure VirtualHost where
  name : String
  domains : List String
  routes : List Route
deriving Repr, DecidableEq

namespace VirtualHost

-- The first of the routes that accepts a request, with its position.
def firstAccepting (path : String) (headers : Headers) :
    Nat → List Route → Draw (Option (Nat × Route))
  | _, [] => pure none
  | index, route :: rest => do
    if ← route.routeMatch.accepts path headers then return some (index, route)
    else firstAccepting path headers (index + 1) rest

def findRoute (host : VirtualHost) (path : String) (headers : Headers) :
    Draw (Option (Nat × Route)) :=
  firstAccepting path headers 0 host.routes

end VirtualHost

end RpcRouting
