import RpcRouting.Document.Json.Number

namespace RpcRouting.Document.Json

def isSpace (c : Char) : Bool := c == ' ' || c == '\n' || c == '\t' || c == '\r'

def skipSpace (cs : List Char) : List Char := cs.dropWhile isSpace

def hexValue? (c : Char) : Option Nat :=
  if c.isDigit then some (c.toNat - '0'.toNat)
  else if 'a' ≤ c && c ≤ 'f' then some (c.toNat - 'a'.toNat + 10)
  else if 'A' ≤ c && c ≤ 'F' then some (c.toNat - 'A'.toNat + 10)
  else none

def codeUnit? (a b c d : Char) : Option Nat := do
  return 4096 * (← hexValue? a) + 256 * (← hexValue? b) + 16 * (← hexValue? c) + (← hexValue? d)

-- A character of a string, or one half of a pair of code units that make up a character.
inductive Piece where
  | char (c : Char)
  | half (unit : Nat)
deriving Repr, DecidableEq

def Piece.ofUnit (unit : Nat) : Piece :=
  if 0xD800 ≤ unit && unit ≤ 0xDFFF then .half unit else .char (Char.ofNat unit)

def escape? : Char → Option Char
  | '"' => some '"'
  | '\\' => some '\\'
  | '/' => some '/'
  | 'b' => some '\x08'
  | 'f' => some '\x0C'
  | 'n' => some '\n'
  | 'r' => some '\r'
  | 't' => some '\t'
  | _ => none

-- The rest of a string, up to its closing quote.
def pieces? : List Char → Option (List Piece × List Char)
  | [] => none
  | '"' :: rest => some ([], rest)
  | '\\' :: 'u' :: a :: b :: c :: d :: rest => do
    let unit ← codeUnit? a b c d
    let (pieces, left) ← pieces? rest
    return (.ofUnit unit :: pieces, left)
  | '\\' :: e :: rest => do
    let c ← escape? e
    let (pieces, left) ← pieces? rest
    return (.char c :: pieces, left)
  | c :: rest =>
    if c.toNat < 0x20 || c = '\\' then none
    else do
      let (pieces, left) ← pieces? rest
      return (.char c :: pieces, left)

-- Joins the halves of pairs. A half on its own makes the string unreadable.
def join? : List Piece → Option (List Char)
  | [] => some []
  | .char c :: rest => (join? rest).map (c :: ·)
  | .half high :: .half low :: rest =>
    if high < 0xDC00 && 0xDC00 ≤ low then
      (join? rest).map
        (Char.ofNat (0x10000 + 1024 * (high - 0xD800) + (low - 0xDC00)) :: ·)
    else none
  | .half _ :: _ => none

-- The text of a string, if it is readable.
def string? (cs : List Char) : Option (Option String × List Char) :=
  (pieces? cs).map fun (pieces, rest) => ((join? pieces).map String.ofList, rest)

-- How many arrays and objects may be open at once around a part that is read.
def maxDepth : Nat := 127

-- A container that holds `content`, inside so many others.
def container (depth : Nat) (content : Value) : Value :=
  if depth < maxDepth then content else .unreadable

def word? (word : String) (value : Value) (cs : List Char) : Option (Value × List Char) :=
  if word.toList.isPrefixOf cs then some (value, cs.drop word.length) else none

-- An object one of whose names is unreadable cannot be read either.
def object (members : List (Option String × Value)) : Value :=
  match members.mapM fun (name, value) => name.map (·, value) with
  | some named => .object named
  | none => .unreadable

mutual

-- A value inside `depth` open arrays and objects.
def value? : Nat → Nat → List Char → Option (Value × List Char)
  | 0, _, _ => none
  | fuel + 1, depth, cs =>
    match skipSpace cs with
    | 'n' :: rest => word? "null" .null ('n' :: rest)
    | 't' :: rest => word? "true" (.bool true) ('t' :: rest)
    | 'f' :: rest => word? "false" (.bool false) ('f' :: rest)
    | '"' :: rest =>
      (string? rest).map fun (text, left) => ((text.map Value.string).getD .unreadable, left)
    | '[' :: rest =>
      match skipSpace rest with
      | ']' :: left => some (container depth (.array []), left)
      | first => (items? fuel (depth + 1) first).map fun (items, left) =>
          (container depth (.array items), left)
    | '{' :: rest =>
      match skipSpace rest with
      | '}' :: left => some (container depth (.object []), left)
      | first => (members? fuel (depth + 1) first).map fun (members, left) =>
          (container depth (object members), left)
    | number => (numberText? number).map fun (text, left) => (text.toValue, left)

-- The items of an array up to its closing bracket. There is at least one.
def items? : Nat → Nat → List Char → Option (List Value × List Char)
  | 0, _, _ => none
  | fuel + 1, depth, cs => do
    let (item, afterItem) ← value? fuel depth cs
    match skipSpace afterItem with
    | ']' :: rest => return ([item], rest)
    | ',' :: rest =>
      let (items, left) ← items? fuel depth rest
      return (item :: items, left)
    | _ => none

-- The members of an object up to its closing brace. There is at least one.
def members? : Nat → Nat → List Char → Option (List (Option String × Value) × List Char)
  | 0, _, _ => none
  | fuel + 1, depth, cs =>
    match skipSpace cs with
    | '"' :: rest => do
      let (name, afterName) ← string? rest
      match skipSpace afterName with
      | ':' :: afterColon =>
        let (value, afterValue) ← value? fuel depth afterColon
        match skipSpace afterValue with
        | '}' :: left => return ([(name, value)], left)
        | ',' :: more =>
          let (members, left) ← members? fuel depth more
          return ((name, value) :: members, left)
        | _ => none
      | _ => none
    | _ => none

end

-- Reads a whole text. Each container takes two rounds for one character at the least.
def parse? (text : List Char) : Option Value :=
  match value? (2 * text.length + 2) 0 text with
  | some (value, rest) => if (skipSpace rest).isEmpty then some value else none
  | none => none

end RpcRouting.Document.Json
