namespace RpcRouting

-- The two versions of the discovery protocol.
inductive ApiVersion where
  | v2
  | v3
deriving Repr, DecidableEq

namespace ApiVersion

def text : ApiVersion → String
  | .v2 => "v2"
  | .v3 => "v3"

structure Unknown where
  text : String
deriving Repr, DecidableEq

def Unknown.message (error : Unknown) : String := "unknown API version: " ++ error.text

-- Case does not matter. What is unknown is reported in lower case.
def parse (text : String) : Except Unknown ApiVersion :=
  match text.map Char.toLower with
  | "v2" => .ok .v2
  | "v3" => .ok .v3
  | other => .error ⟨other⟩

end ApiVersion

end RpcRouting
