import RpcRouting.Wire.RouteConfiguration

namespace RpcRouting.Wire

-- Every message has a counterpart in version 3. Deprecated regular expressions have none, so what
-- they specified is left unset.

def PathSpecifier.upgrade : {v : ApiVersion} → PathSpecifier v → Option (PathSpecifier .v3)
  | _, .startsWith start => some (.startsWith start)
  | _, .path whole => some (.path whole)
  | _, .safeRegex pattern => some (.safeRegex pattern)
  | _, .regex _ => none
  | _, .connect => some .connect

def HeaderSpecifier.upgrade : {v : ApiVersion} → HeaderSpecifier v → Option (HeaderSpecifier .v3)
  | _, .exact value => some (.exact value)
  | _, .safeRegex pattern => some (.safeRegex pattern)
  | _, .range bounds => some (.range bounds)
  | _, .present wanted => some (.present wanted)
  | _, .startsWith start => some (.startsWith start)
  | _, .endsWith stop => some (.endsWith stop)
  | _, .regex _ => none

variable {v : ApiVersion}

def HeaderMatcher.upgrade (header : HeaderMatcher v) : HeaderMatcher .v3 :=
  ⟨header.name, header.specifier.bind (·.upgrade), header.invert⟩

def RouteMatch.upgrade (routeMatch : RouteMatch v) : RouteMatch .v3 where
  path := routeMatch.path.bind (·.upgrade)
  caseSensitive := routeMatch.caseSensitive
  runtimeFraction := routeMatch.runtimeFraction
  headers := routeMatch.headers.map (·.upgrade)
  queryParameters := routeMatch.queryParameters

def Route.upgrade (route : Route v) : Route .v3 :=
  ⟨route.name, route.routeMatch.map (·.upgrade), route.action⟩

def VirtualHost.upgrade (host : VirtualHost v) : VirtualHost .v3 :=
  ⟨host.name, host.domains, host.routes.map (·.upgrade)⟩

def RouteConfiguration.upgrade (config : RouteConfiguration v) : RouteConfiguration .v3 :=
  ⟨config.name, config.virtualHosts.map (·.upgrade)⟩

def RouteConfigurationUpdate.upgrade (update : RouteConfigurationUpdate) :
    RouteConfiguration .v3 := update.config.upgrade

-- In version 3 everything is its own counterpart.

theorem PathSpecifier.upgrade_v3 (specifier : PathSpecifier .v3) :
    specifier.upgrade = some specifier := by
  cases specifier <;> rfl

theorem HeaderSpecifier.upgrade_v3 (specifier : HeaderSpecifier .v3) :
    specifier.upgrade = some specifier := by
  cases specifier <;> rfl

@[simp] theorem HeaderMatcher.upgrade_v3 (header : HeaderMatcher .v3) :
    header.upgrade = header := by
  simp [HeaderMatcher.upgrade, HeaderSpecifier.upgrade_v3]

@[simp] theorem RouteMatch.upgrade_v3 (routeMatch : RouteMatch .v3) :
    routeMatch.upgrade = routeMatch := by
  simp [RouteMatch.upgrade, PathSpecifier.upgrade_v3]

@[simp] theorem Route.upgrade_v3 (route : Route .v3) : route.upgrade = route := by
  simp [Route.upgrade]

@[simp] theorem VirtualHost.upgrade_v3 (host : VirtualHost .v3) : host.upgrade = host := by
  simp [VirtualHost.upgrade]

@[simp] theorem RouteConfiguration.upgrade_v3 (config : RouteConfiguration .v3) :
    config.upgrade = config := by
  simp [RouteConfiguration.upgrade]

end RpcRouting.Wire
