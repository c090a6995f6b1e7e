namespace RpcRouting

-- Why a header cannot be part of a request.
inductive HeaderError where
  | invalidName
  | invalidValue
deriving Repr, DecidableEq

-- The headers of a request in the order in which they were added. Names are kept in lower case.
-- Values are bytes.
structure Headers where
  entries : List (String × List UInt8) := []
deriving Repr, DecidableEq

namespace Headers

def isNameChar (c : Char) : Bool :=
  c.isAlphanum || "!#$%&'*+-.^_`|~".toList.contains c

def maxNameLength : Nat := 65535

-- The form in which a name is stored, if it is one: letters, digits and some signs.
def storedName? (name : String) : Option String :=
  if name.toList.isEmpty || !name.toList.all isNameChar || maxNameLength < name.length then none
  else some (name.map Char.toLower)

-- Anything but control characters. The tabulator is allowed.
def isValueByte (b : UInt8) : Bool := b = 9 || (32 ≤ b && b ≠ 127)

-- Printable ASCII, or a tabulator.
def isTextByte (b : UInt8) : Bool := b = 9 || (32 ≤ b && b < 127)

def append (headers : Headers) (name : String) (value : List UInt8) : Except HeaderError Headers :=
  match storedName? name with
  | none => .error .invalidName
  | some stored =>
    if value.all isValueByte then .ok ⟨headers.entries ++ [(stored, value)]⟩
    else .error .invalidValue

-- A value as text, if all of it is printable.
def textOf? (value : List UInt8) : Option String :=
  if value.all isTextByte then some (String.ofList (value.map fun b => Char.ofNat b.toNat))
  else none

-- The textual values stored under a name, whatever its case, in order.
def textValues (headers : Headers) (name : String) : List String :=
  match storedName? name with
  | none => []
  | some stored => (headers.entries.filter (·.1 == stored)).filterMap fun entry => textOf? entry.2

def binarySuffix : String := "-bin"

-- The value that a matcher sees under a name: all textual values joined by commas. There is none
-- for a name with the suffix of binary headers.
def value? (headers : Headers) (name : String) : Option String :=
  if binarySuffix.toList.isSuffixOf name.toList then none
  else
    match headers.textValues name with
    | [] => none
    | values => some (String.intercalate "," values)

def size (headers : Headers) : Nat := headers.entries.length

end Headers

end RpcRouting
