namespace RpcRouting.Unicode

-- The code points `first`, `first + step`, … up to `last`.
structure CodeRange where
  first : Nat
  last : Nat
  step : Nat := 1
deriving Repr, DecidableEq

namespace CodeRange

def single (code : Nat) : CodeRange := ⟨code, code, 1⟩

def contains (range : CodeRange) (code : Nat) : Bool :=
  range.first ≤ code && code ≤ range.last && (code - range.first) % range.step == 0

end CodeRange

-- Character tables are written as text: items separated by blanks and line breaks, numbers in
-- upper-case hexadecimal. `41-5A` is a range, `100-12E/2` every second code point of one, and
-- `4B=6B=212A` a list of characters that belong together.
namespace CodeTable

def digitValue (c : Char) : Nat :=
  if c.isDigit then c.toNat - '0'.toNat else c.toNat - 'A'.toNat + 10

def number (digits : List Char) : Nat :=
  digits.foldl (fun n c => 16 * n + digitValue c) 0

-- The parts of `text` between occurrences of `separator`.
def splitOn (separator : Char) : List Char → List (List Char)
  | [] => [[]]
  | c :: rest =>
    if c = separator then [] :: splitOn separator rest
    else
      match splitOn separator rest with
      | [] => [[c]]
      | part :: parts => (c :: part) :: parts

-- The items of a table, whatever stands between them.
def items (text : String) : List (List Char) :=
  (splitOn ' ' (text.toList.map fun c => if c = '\n' then ' ' else c)).filter (!·.isEmpty)

def range (item : List Char) : CodeRange :=
  let parts := splitOn '/' item
  let bounds := (splitOn '-' (parts.headD [])).map number
  ⟨bounds.headD 0, bounds.getLastD 0, (parts[1]?.map number).getD 1⟩

def ranges (text : String) : List CodeRange :=
  (items text).map range

def families (text : String) : List (List Nat) :=
  (items text).map fun item => (splitOn '=' item).map number

end CodeTable

end RpcRouting.Unicode
