import RpcRouting.Document.Toml.Date
import RpcRouting.Document.Toml.Number
import RpcRouting.Document.Toml.Table

namespace RpcRouting.Document.Toml

-- The member that stands for a date or a time.
def dateMember : String := "$__toml_private_datetime"

def dateValue (text : String) : Value := .object [(dateMember, .string text)]

-- Passes over what may stand between the items of an array: blanks, line breaks and comments. A
-- comment has to end with its line.
def skipGap? : Nat → List Char → Option (List Char)
  | 0, _ => none
  | fuel + 1, cs =>
    match skipLines cs with
    | '#' :: rest => (lineBreak? (skipComment ('#' :: rest))).bind (skipGap? fuel)
    | rest => some rest

def word? (word : String) (value : Value) (cs : List Char) : Option (Value × List Char) :=
  if word.toList.isPrefixOf cs then some (value, cs.drop word.length) else none

-- A value that is no container.
def scalar? (cs : List Char) : Option (Value × List Char) :=
  match cs with
  | '"' :: _ => text
  | '\'' :: _ => text
  | 't' :: _ => word? "true" (.bool true) cs
  | 'f' :: _ => word? "false" (.bool false) cs
  | _ => ((dateTime? cs).map fun (date, rest) => (dateValue date, rest)).or (number? cs)
where
  text : Option (Value × List Char) :=
    (string? cs).map fun (chars, rest) => (.string (String.ofList chars), rest)

mutual

-- A value inside `depth` open arrays and tables.
def value? : Nat → Nat → List Char → Option (Value × List Char)
  | 0, _, _ => none
  | fuel + 1, depth, cs =>
    match cs with
    | '[' :: rest =>
      if depth < maxDepth then
        (items? fuel (depth + 1) rest).map fun (items, left) => (.array items, left)
      else none
    | '{' :: rest =>
      if depth < maxDepth then
        match skipBlank rest with
        | '}' :: left => some (.object [], left)
        | first => (pairs? fuel (depth + 1) [] first).map fun (table, left) =>
            (table.toValue, left)
      else none
    | _ => scalar? cs

-- The items of an array up to its closing bracket. A comma may follow the last one.
def items? : Nat → Nat → List Char → Option (List Value × List Char)
  | 0, _, _ => none
  | fuel + 1, depth, cs => do
    match ← skipGap? (cs.length + 1) cs with
    | ']' :: rest => return ([], rest)
    | first =>
      let (item, afterItem) ← value? fuel depth first
      match ← skipGap? (afterItem.length + 1) afterItem with
      | ']' :: rest => return ([item], rest)
      | ',' :: rest =>
        let (items, left) ← items? fuel depth rest
        return (item :: items, left)
      | _ => none

-- The pairs of a table on one line, up to its closing brace. There is at least one.
def pairs? : Nat → Nat → Table → List Char → Option (Table × List Char)
  | 0, _, _, _ => none
  | fuel + 1, depth, table, cs => do
    let (key, afterKey) ← key? cs
    match afterKey with
    | '=' :: afterEquals =>
      let (value, afterValue) ← value? fuel depth (skipBlank afterEquals)
      let table ← table.assign key value
      match skipBlank afterValue with
      | '}' :: rest => return (table, rest)
      | ',' :: rest => pairs? fuel depth table rest
      | _ => none
    | _ => none

end

-- What may follow on the line of a header or of a value: blanks, and a comment.
def lineEnd? (cs : List Char) : Option (List Char) :=
  match skipComment (skipBlank cs) with
  | [] => some []
  | rest => lineBreak? rest

-- A document so far, and the path of the header that was opened last.
structure Reading where
  root : Table := []
  header : List String := []

namespace Reading

def header? (state : Reading) (cs : List Char) : Option (Reading × List Char) := do
  match cs with
  | '[' :: '[' :: rest =>
    let (key, afterKey) ← key? rest
    match afterKey with
    | ']' :: ']' :: left =>
      return (⟨← state.root.openNext key, key.path ++ [key.name]⟩, ← lineEnd? left)
    | _ => none
  | '[' :: rest =>
    let (key, afterKey) ← key? rest
    match afterKey with
    | ']' :: left =>
      return (⟨← state.root.openTable key, key.path ++ [key.name]⟩, ← lineEnd? left)
    | _ => none
  | _ => none

-- A key with its value. Each container takes two rounds for one character at the least.
def pair? (state : Reading) (cs : List Char) : Option (Reading × List Char) := do
  let (key, afterKey) ← key? cs
  match afterKey with
  | '=' :: rest =>
    let (value, afterValue) ← value? (2 * rest.length + 2) 0 (skipBlank rest)
    let root ← state.root.assignBelow state.header key value
    return ({ state with root }, ← lineEnd? afterValue)
  | _ => none

-- Reads line after line.
def lines? : Nat → Reading → List Char → Option Reading
  | 0, _, _ => none
  | fuel + 1, state, cs =>
    match skipLines cs with
    | [] => some state
    | '#' :: rest => (lineEnd? ('#' :: rest)).bind (lines? fuel state)
    | '[' :: rest => (state.header? ('[' :: rest)).bind fun (next, left) => lines? fuel next left
    | rest => (state.pair? rest).bind fun (next, left) => lines? fuel next left

end Reading

def byteOrderMark : Char := '\uFEFF'

-- Reads a whole document, which may begin with a byte order mark.
def parse? (text : List Char) : Option Value :=
  let text := if text.head? = some byteOrderMark then text.tail else text
  (Reading.lines? (text.length + 1) {} text).map (·.root.toValue)

end RpcRouting.Document.Toml
