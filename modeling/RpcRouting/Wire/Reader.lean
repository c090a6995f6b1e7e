import RpcRouting.Document.Value

namespace RpcRouting.Wire

open Document

-- Reads a part of a document as a value of some type, or refuses it.
abbrev Reader (α : Type) := Value → Option α

namespace Reader

variable {α : Type}

def text : Reader String
  | .string s => some s
  | _ => none

def flag : Reader Bool
  | .bool b => some b
  | _ => none

-- Integers of a given range. Numbers with a point or an exponent are none.
def integer (low high : Int) : Reader Int
  | .int n => if low ≤ n && n ≤ high then some n else none
  | _ => none

def int64 : Reader Int64 := fun v =>
  (integer Int64.minValue.toInt Int64.maxValue.toInt v).map Int64.ofInt

def int32 : Reader Int32 := fun v =>
  (integer Int32.minValue.toInt Int32.maxValue.toInt v).map Int32.ofInt

def uint32 : Reader UInt32 := fun v =>
  (integer 0 (UInt32.size - 1) v).map fun n => UInt32.ofNat n.toNat

def uint64 : Reader UInt64 := fun v =>
  (integer 0 (UInt64.size - 1) v).map fun n => UInt64.ofNat n.toNat

def list (item : Reader α) : Reader (List α)
  | .array items => items.mapM item
  | _ => none

-- Only what is optional may be null.
def optional (inner : Reader α) : Reader (Option α)
  | .null => some none
  | v => (inner v).map some

-- One of several words, or an object of one member that has the word for its name and is null.
def word (words : List (String × α)) : Reader α
  | .string s => words.lookup s
  | .object [(name, .null)] => words.lookup name
  | _ => none

def dict (inner : Reader α) : Reader (Dict α)
  | .object members =>
    (members.mapM fun m => (inner m.2).map fun a => (m.1, a)).map Dict.ofList
  | _ => none

-- Any value, with the members of its objects in order.
def anything : Reader Value := fun v => if v.readable then some v.canonical else none

end Reader

-- The members of a message, by name.
abbrev Members := List (String × Value)

-- Some name among `names` stands twice.
def hasRepeated (names : List String) (members : Members) : Bool :=
  names.any fun name => 1 < (members.filter fun m => m.1 == name).length

-- A message with the given fields is an object, whose other members mean nothing, or the array of
-- its first fields.
def members? (names : List String) : Value → Option Members
  | .object members => if hasRepeated names members then none else some members
  | .array items => if items.length ≤ names.length then some (names.zip items) else none
  | _ => none

-- A message with alternatives beside its fields is an object. All members but the fields are read
-- in before the alternative is chosen.
def mixedMembers? (names : List String) : Value → Option Members
  | .object members =>
    if hasRepeated names members then none
    else if members.all fun m => names.contains m.1 || m.2.readable then some members
    else none
  | _ => none

-- A field that is missing has its default value.
def field {α : Type} (members : Members) (name : String) (reader : Reader α) (default : α) :
    Option α :=
  match members.lookup name with
  | none => some default
  | some value => reader value

-- The first member that names an alternative decides. If its value does not fit, no alternative
-- is set, whatever else the message holds.
def alternative {α : Type} (choices : List (String × Reader α)) (members : Members) : Option α :=
  match members.find? fun m => choices.any fun choice => choice.1 == m.1 with
  | none => none
  | some (name, value) => (choices.lookup name).bind fun reader => reader value

end RpcRouting.Wire
