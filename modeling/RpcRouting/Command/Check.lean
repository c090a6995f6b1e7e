import RpcRouting.Compile.Route
import RpcRouting.Route.DomainMatch

namespace RpcRouting

-- What a check says about one host.
structure HostReport where
  name : String
  domains : List String
  isSelected : Bool
  routes : List (String × Outcome Route)
deriving Repr, DecidableEq

-- What a check says about a route configuration.
structure CheckReport where
  routeConfig : String
  version : ApiVersion
  authority : String
  hasSelection : Bool
  hosts : List HostReport
deriving Repr, DecidableEq

namespace CheckReport

-- Compiles every route of every host. A host counts as selected if it has the name of the one that
-- serves the authority.
def build (config : Wire.RouteConfiguration .v3) (version : ApiVersion) (authority : String) :
    CheckReport :=
  let selected := (Wire.VirtualHost.select? config.virtualHosts authority).map (·.name)
  { routeConfig := config.name
    version
    authority
    hasSelection := selected.isSome
    hosts := config.virtualHosts.map fun host =>
      { name := host.name
        domains := host.domains
        isSelected := selected = some host.name
        routes := host.routes.map fun wire => (wire.name, Compile.route wire) } }

end CheckReport

-- Where a route leads, in one word.
def Destination.summary : Destination → String
  | .cluster name => name
  | .weighted clusters =>
    String.intercalate "," (clusters.map fun c => c.name ++ ":" ++ toString c.weight.toNat)

-- The lines of a report. What patterns are refused for is left to be explained.
variable (explain : String → String)

namespace HostReport

def verdict : Outcome Route → String
  | .compiled route => "ok -> " ++ route.action.destination.summary
  | .skipped => "skipped"
  | .invalid defect => "error: " ++ defect.message explain

-- The lines for routes from position `index` on.
def routeLines : Nat → List (String × Outcome Route) → List String
  | _, [] => []
  | index, (name, outcome) :: rest =>
    ("  #" ++ toString index ++ " " ++ Text.quoted name ++ " " ++ verdict explain outcome) ::
      routeLines (index + 1) rest

def lines (authority : String) (host : HostReport) : List String :=
  let marker := if host.isSelected then " [selected for " ++ authority ++ "]" else ""
  ("virtual host " ++ Text.quoted host.name ++ " domains=" ++ Text.quotedList host.domains ++
    marker) :: routeLines explain 0 host.routes

end HostReport

namespace CheckReport

def lines (report : CheckReport) : List String :=
  ("route configuration " ++ Text.quoted report.routeConfig ++ " (" ++ report.version.text ++
      ")") ::
    report.hosts.flatMap (HostReport.lines explain report.authority) ++
    if report.hasSelection then []
    else ["no virtual host matches authority " ++ Text.quoted report.authority]

-- The number of routes that are wrong.
def invalidCount (report : CheckReport) : Nat :=
  ((report.hosts.flatMap (·.routes)).filter fun route => route.2.defect?.isSome).length

end CheckReport

end RpcRouting
