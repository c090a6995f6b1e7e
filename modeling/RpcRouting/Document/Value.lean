import RpcRouting.Decimal.Binary64
import RpcRouting.Document.Dict

namespace RpcRouting.Document

-- A document as a tree. Members of an object stand in the order of the document, and a name may
-- stand twice. `unreadable` stands for a part that is well formed but has no value: a string with
-- half of a surrogate pair, a number beyond all doubles, nesting beyond the limit. Such parts may
-- be passed over, but not read.
inductive Value where
  | null
  | bool (b : Bool)
  | int (n : Int)
  | float (negative : Bool) (magnitude : Decimal.Binary64)
  | string (s : String)
  | array (items : List Value)
  | object (members : List (String × Value))
  | unreadable
deriving Repr

instance : Inhabited Value := ⟨.null⟩

namespace Value

mutual

-- No part of the tree is unreadable.
def readable : Value → Bool
  | .array items => readableItems items
  | .object members => readableMembers members
  | .unreadable => false
  | _ => true

def readableItems : List Value → Bool
  | [] => true
  | item :: rest => item.readable && readableItems rest

def readableMembers : List (String × Value) → Bool
  | [] => true
  | (_, value) :: rest => value.readable && readableMembers rest

end

mutual

-- The tree with the members of every object sorted by name. The last of several members of one
-- name counts.
def canonical : Value → Value
  | .array items => .array (canonicalItems items)
  | .object members => .object (Dict.ofList (canonicalMembers members)).toList
  | value => value

def canonicalItems : List Value → List Value
  | [] => []
  | item :: rest => item.canonical :: canonicalItems rest

def canonicalMembers : List (String × Value) → List (String × Value)
  | [] => []
  | (name, value) :: rest => (name, value.canonical) :: canonicalMembers rest

end

end Value

end RpcRouting.Document
