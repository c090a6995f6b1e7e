import RpcRouting.Regex.Syntax

namespace RpcRouting.Regex.Syntax

open Unicode

-- A set together with how deep the brackets and operations that describe it are nested.
structure SetPart where
  set : CharSet
  height : Nat
deriving Repr, DecidableEq

inductive SetOperator where
  | intersection
  | difference
  | symmetricDifference
deriving Repr, DecidableEq

-- A bracketed set that is still open: the parts read since its start or since its last operator,
-- latest first, and what stands before that operator.
structure OpenSet where
  negated : Bool
  left : Option (SetOperator × SetPart)
  parts : List SetPart
deriving Repr, DecidableEq

namespace SetPart

def heightOf (parts : List SetPart) : Nat := parts.foldl (fun h part => max h part.height) 0

-- The union of parts that stand side by side.
def ofParts : List SetPart → SetPart
  | [] => ⟨.empty, 0⟩
  | [part] => part
  | parts => ⟨.unionAll (parts.map SetPart.set), heightOf parts + 1⟩

end SetPart

def SetOperator.apply (flags : Flags) (operator : SetOperator) (a b : SetPart) : SetPart :=
  let left := closeCase flags a.set
  let right := closeCase flags b.set
  let set :=
    match operator with
    | .intersection => .inter left right
    | .difference => .diff left right
    | .symmetricDifference => .symmDiff left right
  ⟨set, max a.height b.height + 1⟩

namespace OpenSet

-- Operators bind weaker than juxtaposition and group to the left.
def content (flags : Flags) (open_ : OpenSet) : SetPart :=
  let right := SetPart.ofParts open_.parts
  match open_.left with
  | none => right
  | some (operator, left) => operator.apply flags left right

def add (part : SetPart) (open_ : OpenSet) : OpenSet :=
  { open_ with parts := part :: open_.parts }

def operate (flags : Flags) (operator : SetOperator) (open_ : OpenSet) : OpenSet :=
  { open_ with left := some (operator, open_.content flags), parts := [] }

def close? (flags : Flags) (open_ : OpenSet) : Option SetPart :=
  let content := open_.content flags
  (complement? flags open_.negated (closeCase flags content.set)).map
    fun set => ⟨set, content.height + 1⟩

end OpenSet

-- Whether a set is negated, which a caret at its start says.
def negation (flags : Flags) (cs : List Char) : Bool × List Char :=
  match skipBlank flags cs with
  | '^' :: rest => (true, skipBlank flags rest)
  | body => (false, body)

-- Hyphens at the start of a set, and a closing bracket right at the start, stand for themselves.
def firstParts? (flags : Flags) (body : List Char) : Option (List SetPart × List Char) :=
  match collect flags.verbose (· == '-') false body with
  | (_, []) => none
  | ([], ']' :: more) =>
    match skipBlank flags more with
    | [] => none
    | left => some ([⟨.ofChars [']'], 0⟩], left)
  | (hyphens, left) => some (hyphens.map fun c => ⟨.ofChars [c], 0⟩, left)

-- Reads the start of a bracketed set, after its bracket.
def openSet? (flags : Flags) (cs : List Char) : Option (OpenSet × List Char) :=
  let (negated, body) := negation flags cs
  (firstParts? flags body).map fun (parts, left) => (⟨negated, none, parts⟩, left)

def asciiClasses : List (String × CharSet) :=
  [("alnum", .ranges [⟨0x30, 0x39, 1⟩, ⟨0x41, 0x5A, 1⟩, ⟨0x61, 0x7A, 1⟩]),
   ("alpha", .ranges [⟨0x41, 0x5A, 1⟩, ⟨0x61, 0x7A, 1⟩]),
   ("ascii", .ranges [⟨0, 0x7F, 1⟩]),
   ("blank", .ofChars ['\t', ' ']),
   ("cntrl", .ranges [⟨0, 0x1F, 1⟩, .single 0x7F]),
   ("digit", asciiDigit),
   ("graph", .ranges [⟨0x21, 0x7E, 1⟩]),
   ("lower", .ranges [⟨0x61, 0x7A, 1⟩]),
   ("print", .ranges [⟨0x20, 0x7E, 1⟩]),
   ("punct", .ranges [⟨0x21, 0x2F, 1⟩, ⟨0x3A, 0x40, 1⟩, ⟨0x5B, 0x60, 1⟩, ⟨0x7B, 0x7E, 1⟩]),
   ("space", asciiSpace),
   ("upper", .ranges [⟨0x41, 0x5A, 1⟩]),
   ("word", WordAlphabet.asciiWord),
   ("xdigit", .ranges [⟨0x30, 0x39, 1⟩, ⟨0x41, 0x46, 1⟩, ⟨0x61, 0x66, 1⟩])]

-- The class with the name that a colon and a bracket end.
def namedClass? (cs : List Char) : Option (CharSet × List Char) :=
  let name := cs.takeWhile (· != ':')
  match cs.dropWhile (· != ':') with
  | ':' :: ']' :: rest =>
    (asciiClasses.find? (·.1 == String.ofList name)).map fun entry => (entry.2, rest)
  | _ => none

-- A class such as `[:alpha:]` or `[:^alpha:]`, after its bracket. Anything else leaves the bracket
-- to open a nested set.
def asciiClass? : List Char → Option ((Bool × CharSet) × List Char)
  | ':' :: '^' :: named => (namedClass? named).map fun (set, rest) => ((true, set), rest)
  | ':' :: named => (namedClass? named).map fun (set, rest) => ((false, set), rest)
  | _ => none

-- The first character that is neither blank nor the start of a comment.
def firstSolid : Bool → List Char → Option Char
  | _, [] => none
  | inComment, c :: rest =>
    if isBlank c then firstSolid inComment rest
    else if !inComment && c = '#' then firstSolid true rest
    else some c

-- The character that decides whether a hyphen begins a range.
def peek (flags : Flags) (rest : List Char) : Option Char :=
  if flags.verbose then (firstSolid false rest).or rest.head? else rest.head?

def setAtom? (flags : Flags) : List Char → Option (Atom × List Char)
  | [] => none
  | '\\' :: rest => escape? flags rest
  | c :: rest => some (.literal c false, rest)

-- A character in a set. Where Unicode is off, sets hold ASCII only.
def member? (flags : Flags) : Atom → Option Char
  | .literal c _ => if flags.unicode || c.toNat < 128 then some c else none
  | _ => none

def setOfAtom? (flags : Flags) : Atom → Option CharSet
  | .set members => some members
  | atom => (member? flags atom).map fun c => .ofChars [c]

def range? (flags : Flags) (first last : Atom) : Option CharSet := do
  let low ← member? flags first
  let high ← member? flags last
  guard (low ≤ high)
  return .between low high

-- What the hyphen after a character begins. Before another hyphen, or at the end of the set, it
-- stands for itself.
def rangeFrom? (flags : Flags) (first : Atom) (rest : List Char) : Option (CharSet × List Char) :=
  let next := peek flags rest
  if next = some ']' || next = some '-' then (setOfAtom? flags first).map (·, '-' :: rest)
  else
    (setAtom? flags (skipBlank flags rest)).bind fun (last, left) =>
      (range? flags first last).map (·, left)

-- A single item of a set, or a range.
def setItem? (flags : Flags) (cs : List Char) : Option (CharSet × List Char) :=
  (setAtom? flags cs).bind fun (first, afterFirst) =>
    match skipBlank flags afterFirst with
    | [] => none
    | '-' :: rest => rangeFrom? flags first rest
    | left => (setOfAtom? flags first).map (·, left)

def SetOperator.ofSign? : Char → Option SetOperator
  | '&' => some .intersection
  | '-' => some .difference
  | '~' => some .symmetricDifference
  | _ => none

-- An operator is written as its sign, twice.
def operator? : List Char → Option (SetOperator × List Char)
  | c :: d :: rest => if c = d then (SetOperator.ofSign? c).map (·, rest) else none
  | _ => none

-- Reads on inside open sets, innermost first, until the outermost closes. Each round reads at
-- least one character, so the length of the text is fuel enough.
def brackets? (flags : Flags) : Nat → OpenSet → List OpenSet → List Char →
    Option (SetPart × List Char)
  | 0, _, _, _ => none
  | fuel + 1, inner, outer, cs =>
    match skipBlank flags cs with
    | [] => none
    | '[' :: rest =>
      match asciiClass? rest with
      | some ((negated, members), left) => do
        let set ← complement? flags negated (closeCase flags members)
        brackets? flags fuel (inner.add ⟨set, 0⟩) outer left
      | none => do
        let (nested, left) ← openSet? flags rest
        brackets? flags fuel nested (inner :: outer) left
    | ']' :: rest => do
      let part ← inner.close? flags
      match outer with
      | [] => return (part, rest)
      | parent :: others => brackets? flags fuel (parent.add part) others rest
    | left =>
      match operator? left with
      | some (operator, rest) => brackets? flags fuel (inner.operate flags operator) outer rest
      | none => do
        let (set, left) ← setItem? flags left
        brackets? flags fuel (inner.add ⟨set, 0⟩) outer left

-- A bracketed set, after its bracket.
def bracketed? (flags : Flags) (cs : List Char) : Option (SetPart × List Char) := do
  let (first, left) ← openSet? flags cs
  brackets? flags (left.length + 1) first [] left

end RpcRouting.Regex.Syntax
