import RpcRouting.Unicode.Property

namespace RpcRouting.Text

open Unicode

-- Characters without a shape of their own: unassigned and private ones, controls, formats,
-- separators, and marks that join the character before them.
def invisible : CharSet :=
  .unionAll [.compl Property.assigned, Property.graphemeExtend,
    Property.categories [.control, .format, .privateUse, .spaceSeparator, .lineSeparator,
      .paragraphSeparator]]

def isVisible (c : Char) : Bool :=
  if c.toNat < 0x7F then 0x20 ≤ c.toNat else !invisible.contains c

def codeEscape (c : Char) : List Char :=
  ['\\', 'u', '{'] ++ Nat.toDigits 16 c.toNat ++ ['}']

def escaped (c : Char) : List Char :=
  match c with
  | '\x00' => ['\\', '0']
  | '\t' => ['\\', 't']
  | '\r' => ['\\', 'r']
  | '\n' => ['\\', 'n']
  | '"' => ['\\', '"']
  | '\\' => ['\\', '\\']
  | c => if isVisible c then [c] else codeEscape c

-- Names and patterns in messages stand between double quotes, with everything escaped that a
-- reader could not see.
def quoted (s : String) : String :=
  String.ofList ('"' :: s.toList.flatMap escaped ++ ['"'])

def quotedList (items : List String) : String :=
  "[" ++ String.intercalate ", " (items.map quoted) ++ "]"

end RpcRouting.Text
