import RpcRouting.Compile.VirtualHost
import RpcRouting.Route.DomainMatch
import RpcRouting.Wire.Upgrade

namespace RpcRouting

-- Why an update was not taken.
inductive UpdateError where
  | noVirtualHost (routeConfig authority : String)
  | rejected (routeConfig : String) (cause : InvalidRoute)
  | shutDown
deriving Repr, DecidableEq

def UpdateError.message (explain : String → String) : UpdateError → String
  | .noVirtualHost routeConfig authority =>
    "no virtual host in route configuration " ++ Text.quoted routeConfig ++
      " matches authority " ++ Text.quoted authority
  | .rejected routeConfig cause =>
    "route configuration " ++ Text.quoted routeConfig ++ " rejected: " ++ cause.message explain
  | .shutDown => "resolver is shut down"

-- The compiled routes of the host that serves an authority.
structure RouteTable where
  routeConfigName : String
  virtualHost : VirtualHost
deriving Repr, DecidableEq

namespace RouteTable

-- Selects the host for an authority and compiles its routes. Other hosts are not looked at. Also
-- gives the number of routes left out.
def build (config : Wire.RouteConfiguration .v3) (authority : String) :
    Except UpdateError (RouteTable × Nat) :=
  match Wire.VirtualHost.select? config.virtualHosts authority with
  | none => .error (.noVirtualHost config.name authority)
  | some wire =>
    match Compile.virtualHost wire with
    | .error cause => .error (.rejected config.name cause)
    | .ok (host, skipped) => .ok (⟨config.name, host⟩, skipped)

end RouteTable

end RpcRouting
