import RpcRouting.Text.Quoted

namespace RpcRouting

-- Why a route cannot be compiled.
inductive Defect where
  | caseInsensitive
  | badPathPattern (pattern : String)
  | connectMatcher
  | noPathSpecifier
  | badHeaderPattern (pattern header : String)
  | noHeaderSpecifier (header : String)
  | noClusters
  | zeroWeights
  | weightsTooLarge (total : Nat)
  | noClusterSpecifier
  | noAction
deriving Repr, DecidableEq

namespace Defect

-- What is wrong, in words. `explain` says what a pattern is refused for.
def message (explain : String → String) : Defect → String
  | .caseInsensitive => "Unsupported match option: case insensitive"
  | .badPathPattern pattern =>
    "Malformed safe regex pattern " ++ Text.quoted pattern ++ ": " ++ explain pattern
  | .connectMatcher => "Unsupported path match type: connect_matcher"
  | .noPathSpecifier => "Unknown path match type: path specifier is not set"
  | .badHeaderPattern pattern header =>
    "Malformed safe regex pattern " ++ Text.quoted pattern ++ " for header " ++
      Text.quoted header ++ ": " ++ explain pattern
  | .noHeaderSpecifier header => "Unknown header matcher type for header " ++ Text.quoted header
  | .noClusters => "No cluster found in weighted cluster list"
  | .zeroWeights => "Sum of cluster weights should be above 0"
  | .weightsTooLarge total =>
    "Sum of cluster weights should be below 4294967295, got " ++ toString total
  | .noClusterSpecifier => "Unknown cluster specifier: cluster specifier is not set"
  | .noAction => "Unknown action type: action is not set"

end Defect

-- What becomes of a part of a configuration: it is compiled, it is wrong, or it asks for something
-- that is known but not supported.
inductive Outcome (α : Type) where
  | compiled (value : α)
  | invalid (defect : Defect)
  | skipped
deriving Repr, DecidableEq

namespace Outcome

variable {α β : Type}

def bind : Outcome α → (α → Outcome β) → Outcome β
  | .compiled a, f => f a
  | .invalid defect, _ => .invalid defect
  | .skipped, _ => .skipped

instance : Monad Outcome where
  pure := .compiled
  bind := bind

instance : LawfulMonad Outcome := LawfulMonad.mk' Outcome
  (fun m => by cases m <;> rfl)
  (fun _ _ => rfl)
  (fun m f g => by cases m <;> rfl)

def isSkipped : Outcome α → Bool
  | .skipped => true
  | _ => false

def defect? : Outcome α → Option Defect
  | .invalid defect => some defect
  | _ => none

def value? : Outcome α → Option α
  | .compiled a => some a
  | _ => none

end Outcome

end RpcRouting
