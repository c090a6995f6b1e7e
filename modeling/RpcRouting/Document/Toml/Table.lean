import RpcRouting.Document.Toml.Text

namespace RpcRouting.Document.Toml

-- What made a table: a header of its own, the header of a table inside it, or a dotted key.
inductive Origin where
  | header
  | implied
  | dotted
deriving Repr, DecidableEq

-- A part of a document that is being read. `tables` is a list of tables under one name, of which
-- only the last is still open.
inductive Item where
  | value (value : Value)
  | table (origin : Origin) (members : List (String × Item))
  | tables (closed : List (List (String × Item))) (last : List (String × Item))

abbrev Table := List (String × Item)

namespace Table

-- Changes the item of a name where it stands.
def replace (name : String) (item : Item) (table : Table) : Table :=
  table.map fun member => if member.1 == name then (name, item) else member

def add (name : String) (item : Item) (table : Table) : Table := table ++ [(name, item)]

def remove (name : String) (table : Table) : Table := table.filter (·.1 != name)

-- Changes the table to which a path leads. Tables that are missing on the way come into being,
-- those of a dotted key as `dotted`. A dotted key cannot lead through a table that has a header.
def reach (dotted : Bool) (change : Origin → Table → Option Table) :
    List String → Origin → Table → Option Table
  | [], origin, table => change origin table
  | name :: path, _, table =>
    match table.lookup name with
    | none => do
      let origin := if dotted then Origin.dotted else .implied
      return table.add name (.table origin (← reach dotted change path origin []))
    | some (.value _) => none
    | some (.table origin inner) => do
      guard (!(dotted && origin = .header))
      return table.replace name (.table origin (← reach dotted change path origin inner))
    | some (.tables closed last) => do
      return table.replace name (.tables closed (← reach dotted change path .header last))

-- Gives a value to a key. A key cannot have two values. The table that holds it has to belong to
-- the current header itself, or to dotted keys alone.
def assign (key : Key) (value : Value) (table : Table) : Option Table :=
  reach true (fun origin inner => do
    guard (key.path.isEmpty || origin = .dotted)
    guard (inner.lookup key.name).isNone
    return inner.add key.name (.value value)) key.path .header table

-- Opens the table of a header. One that was implied before moves to the end of its parent.
def openTable (key : Key) (root : Table) : Option Table :=
  reach false (fun _ parent =>
    match parent.lookup key.name with
    | none => some (parent.add key.name (.table .header []))
    | some (.table .implied inner) =>
      some ((parent.remove key.name).add key.name (.table .header inner))
    | some _ => none) key.path .header root

-- Opens one more table of a list.
def openNext (key : Key) (root : Table) : Option Table :=
  reach false (fun _ parent =>
    match parent.lookup key.name with
    | none => some (parent.add key.name (.tables [] []))
    | some (.tables closed last) =>
      some (parent.replace key.name (.tables (closed ++ [last]) []))
    | some _ => none) key.path .header root

-- Gives a value to a key below the header that was opened last.
def assignBelow (header : List String) (key : Key) (value : Value) (root : Table) : Option Table :=
  reach false (fun _ table => assign key value table) header .header root

mutual

def itemValue : Item → Value
  | .value v => v
  | .table _ members => .object (memberValues members)
  | .tables closed last => .array (rowValues closed ++ [.object (memberValues last)])

def memberValues : List (String × Item) → List (String × Value)
  | [] => []
  | (name, item) :: rest => (name, itemValue item) :: memberValues rest

def rowValues : List (List (String × Item)) → List Value
  | [] => []
  | row :: rest => .object (memberValues row) :: rowValues rest

end

def toValue (table : Table) : Value := .object (memberValues table)

end Table

end RpcRouting.Document.Toml
