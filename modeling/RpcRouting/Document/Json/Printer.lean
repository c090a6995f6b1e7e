import RpcRouting.Decimal.Shortest
import RpcRouting.Document.Value

namespace RpcRouting.Document.Json

def hexDigit (n : Nat) : Char :=
  if n < 10 then Char.ofNat ('0'.toNat + n) else Char.ofNat ('a'.toNat + n - 10)

def escaped (c : Char) : List Char :=
  match c with
  | '"' => ['\\', '"']
  | '\\' => ['\\', '\\']
  | '\x08' => ['\\', 'b']
  | '\x0C' => ['\\', 'f']
  | '\n' => ['\\', 'n']
  | '\r' => ['\\', 'r']
  | '\t' => ['\\', 't']
  | c =>
    if c.toNat < 0x20 then
      ['\\', 'u', '0', '0', hexDigit (c.toNat / 16), hexDigit (c.toNat % 16)]
    else [c]

def quoted (s : String) : List Char := '"' :: s.toList.flatMap escaped ++ ['"']

def integer (n : Int) : List Char :=
  if n < 0 then '-' :: Nat.toDigits 10 n.natAbs else Nat.toDigits 10 n.natAbs

-- How arrays and objects are laid out: all on one line, or one part a line, indented by two
-- blanks a level.
inductive Layout where
  | compact
  | indented
deriving Repr, DecidableEq

namespace Layout

def lineBreak : Layout → Nat → List Char
  | .compact, _ => []
  | .indented, level => '\n' :: List.replicate (2 * level) ' '

def colon : Layout → List Char
  | .compact => [':']
  | .indented => [':', ' ']

-- Parts between brackets, inside `level` containers.
def wrap (layout : Layout) (level : Nat) (opening closing : Char) :
    List (List Char) → List Char
  | [] => [opening, closing]
  | first :: rest =>
    opening :: layout.lineBreak (level + 1) ++ first ++
      rest.flatMap (fun part => ',' :: layout.lineBreak (level + 1) ++ part) ++
      layout.lineBreak level ++ [closing]

end Layout

mutual

def print (layout : Layout) (level : Nat) : Value → List Char
  | .null => "null".toList
  | .bool true => "true".toList
  | .bool false => "false".toList
  | .int n => integer n
  | .float negative magnitude => (Decimal.spell negative magnitude).toList
  | .string s => quoted s
  | .array items => layout.wrap level '[' ']' (printItems layout (level + 1) items)
  | .object members => layout.wrap level '{' '}' (printMembers layout (level + 1) members)
  | .unreadable => "null".toList

def printItems (layout : Layout) (level : Nat) : List Value → List (List Char)
  | [] => []
  | item :: rest => print layout level item :: printItems layout level rest

def printMembers (layout : Layout) (level : Nat) : List (String × Value) → List (List Char)
  | [] => []
  | (name, value) :: rest =>
    (quoted name ++ layout.colon ++ print layout level value) :: printMembers layout level rest

end

def compact (value : Value) : String := String.ofList (print .compact 0 value)

def indented (value : Value) : String := String.ofList (print .indented 0 value)

end RpcRouting.Document.Json
