import RpcRouting.Regex.Pattern

namespace RpcRouting

open Regex (Pattern)

-- What a route asks of the path of a request. Case counts.
inductive PathMatcher where
  | exact (path : String)
  | startsWith (start : String)
  | regex (pattern : Pattern)
deriving Repr, DecidableEq

namespace PathMatcher

def accepts : PathMatcher → String → Bool
  | .exact whole, path => path == whole
  | .startsWith start, path => start.toList.isPrefixOf path.toList
  | .regex pattern, path => pattern.isFullMatch path

end PathMatcher

end RpcRouting
