import RpcRouting.Compile.Route

namespace RpcRouting

-- A route that keeps a host from being compiled: where it stands, and what is wrong with it.
structure InvalidRoute where
  virtualHost : String
  index : Nat
  route : String
  defect : Defect
deriving Repr, DecidableEq

def InvalidRoute.message (explain : String → String) (error : InvalidRoute) : String :=
  "virtual host " ++ Text.quoted error.virtualHost ++ ": route #" ++ toString error.index ++
    " (" ++ Text.quoted error.route ++ ") is invalid: " ++ error.defect.message explain

namespace Compile

-- The routes of a host, in order, and the number of those that were passed over.
structure Routes where
  routes : List Route := []
  skipped : Nat := 0
deriving Repr, DecidableEq

-- The routes from position `index` on. The first that is wrong ends everything.
def routesFrom (host : String) : Nat → List (Wire.Route .v3) → Except InvalidRoute Routes
  | _, [] => .ok {}
  | index, wire :: rest =>
    match route wire with
    | .invalid defect => .error ⟨host, index, wire.name, defect⟩
    | .skipped =>
      (routesFrom host (index + 1) rest).map fun result =>
        { result with skipped := result.skipped + 1 }
    | .compiled compiled =>
      (routesFrom host (index + 1) rest).map fun result =>
        { result with routes := compiled :: result.routes }

-- A host with its routes compiled, and the number of routes left out.
def virtualHost (wire : Wire.VirtualHost .v3) : Except InvalidRoute (VirtualHost × Nat) :=
  (routesFrom wire.name 0 wire.routes).map fun result =>
    (⟨wire.name, wire.domains, result.routes⟩, result.skipped)

end Compile

end RpcRouting
