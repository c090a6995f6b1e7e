import RpcRouting.Files.Loading
import RpcRouting.Resolver.Resolver

namespace RpcRouting

-- Why no resolver could be started.
inductive StartupError where
  | load (error : LoadError)
  | update (error : UpdateError)
deriving Repr, DecidableEq

def UpdateError.startupMessage (explain : String → String) (error : UpdateError) : String :=
  "initial route configuration rejected: " ++ error.message explain

-- A resolver for the authority of the settings, with the routes they name. Without such routes it
-- starts empty.
def Settings.startResolver (settings : Settings) (files : Files) : Except StartupError Resolver :=
  let empty : Resolver := { authority := settings.resolver.authority }
  match settings.source.routeConfigPath with
  | none => .ok empty
  | some path =>
    match files.loadRoutes path settings.source.apiVersion with
    | .error error => .error (.load error)
    | .ok update =>
      match empty.update update with
      | (.error error, _) => .error (.update error)
      | (.ok _, resolver) => .ok resolver

end RpcRouting
