import RpcRouting.Regex.Bracket

namespace RpcRouting.Regex.Syntax

open Unicode

-- An expression together with how deep groups, repetitions, choices and sequences are nested in
-- its text. A directive that only sets flags cannot be repeated.
structure Piece where
  expr : Expr
  height : Nat
  repeatable : Bool := true
deriving Repr, DecidableEq

namespace Piece

def heightOf (pieces : List Piece) : Nat := pieces.foldl (fun h piece => max h piece.height) 0

def sequence : List Piece → Piece
  | [] => ⟨.empty, 0, true⟩
  | [piece] => piece
  | pieces => ⟨.seqAll (pieces.map Piece.expr), heightOf pieces + 1, true⟩

def choice : List Piece → Piece
  | [piece] => piece
  | pieces => ⟨.altAll (pieces.map Piece.expr), heightOf pieces + 1, true⟩

def group (piece : Piece) : Piece := ⟨piece.expr, piece.height + 1, true⟩

end Piece

-- What has been read of one group, or of the whole pattern: the finished alternatives and the
-- pieces of the current one, each latest first.
structure Level where
  alternatives : List Piece := []
  pieces : List Piece := []
deriving Repr, DecidableEq

namespace Level

def add (piece : Piece) (level : Level) : Level := { level with pieces := piece :: level.pieces }

def alternate (level : Level) : Level :=
  ⟨.sequence level.pieces.reverse :: level.alternatives, []⟩

def piece (level : Level) : Piece :=
  .choice (Piece.sequence level.pieces.reverse :: level.alternatives).reverse

end Level

-- The reader's memory: the innermost open group, and around it the groups still open, each with
-- the flags that hold again once the group inside it closes.
structure Reading where
  flags : Flags := {}
  level : Level := {}
  outer : List (Flags × Level) := []
  names : List (List Char) := []
deriving Repr, DecidableEq

namespace Reading

def add (piece : Piece) (reading : Reading) : Reading :=
  { reading with level := reading.level.add piece }

def addSet (set : CharSet) (height : Nat) (reading : Reading) : Reading :=
  reading.add ⟨.one set, height, true⟩

def addAnchor (anchor : Anchor) (reading : Reading) : Reading :=
  reading.add ⟨.anchor anchor, 0, true⟩

-- Opens a group in which `flags` hold.
def openGroup (flags : Flags) (reading : Reading) : Reading :=
  { reading with flags, level := {}, outer := (reading.flags, reading.level) :: reading.outer }

def closeGroup? (reading : Reading) : Option Reading :=
  match reading.outer with
  | [] => none
  | (flags, level) :: outer =>
    some { reading with flags, level := level.add reading.level.piece.group, outer }

-- Repeats the latest piece.
def repeatLast? (least : Nat) (extra : Option Nat) (reading : Reading) : Option Reading :=
  match reading.level.pieces with
  | [] => none
  | last :: pieces =>
    if last.repeatable then
      let repeated : Piece := ⟨.rep last.expr least extra, last.height + 1, true⟩
      some { reading with level := { reading.level with pieces := repeated :: pieces } }
    else none

end Reading

-- Sets or clears one flag. The preference flag `U` changes nothing that shows.
def setFlag? (flags : Flags) (value : Bool) : Char → Option Flags
  | 'i' => some { flags with ignoreCase := value }
  | 'm' => some { flags with multiLine := value }
  | 's' => some { flags with dotMatchesNewline := value }
  | 'u' => some { flags with unicode := value }
  | 'R' => some { flags with crlf := value }
  | 'x' => some { flags with verbose := value }
  | 'U' => some flags
  | _ => none

-- Reads flags up to the `:` or `)` that ends them; those after a hyphen are cleared. No item may
-- stand twice, and the hyphen may not come last.
def flagItems? (flags : Flags) (seen : List Char) : List Char →
    Option (Flags × List Char × List Char)
  | [] => none
  | c :: rest =>
    if c = ':' || c = ')' then
      if seen.head? = some '-' then none else some (flags, seen, c :: rest)
    else if seen.contains c then none
    else if c = '-' then flagItems? flags ('-' :: seen) rest
    else
      match setFlag? flags (!seen.contains '-') c with
      | none => none
      | some changed => flagItems? changed (c :: seen) rest

def isNameStart (c : Char) : Bool := c == '_' || Property.alphabetic.contains c

def isNameChar (c : Char) : Bool :=
  c == '_' || c == '.' || c == '[' || c == ']' || Property.alphanumeric.contains c

-- The name of a group, up to its closing angle bracket.
def groupName? (cs : List Char) : Option (List Char × List Char) :=
  let name := cs.takeWhile (· != '>')
  match name, cs.dropWhile (· != '>') with
  | first :: others, _ :: rest =>
    if isNameStart first && others.all isNameChar then some (name, rest) else none
  | _, _ => none

def openNamed? (reading : Reading) (cs : List Char) : Option (Reading × List Char) := do
  let (name, rest) ← groupName? cs
  guard (!reading.names.contains name)
  return ({ reading.openGroup reading.flags with names := name :: reading.names }, rest)

-- What flags after a question mark do: they hold from here on, or within the group they open.
def setFlags? (reading : Reading) (cs : List Char) : Option (Reading × List Char) :=
  match flagItems? reading.flags [] cs with
  | some (flags, seen, ')' :: rest) =>
    if seen.isEmpty then none
    else some ({ reading.add ⟨.empty, 0, false⟩ with flags }, rest)
  | some (flags, _, _ :: rest) => some (reading.openGroup flags, rest)
  | _ => none

-- What a parenthesis and a question mark begin. Look-around is not supported: it would begin with
-- something that is neither a flag nor the start of a name.
def special? (reading : Reading) : List Char → Option (Reading × List Char)
  | 'P' :: '<' :: rest => openNamed? reading rest
  | '<' :: rest => openNamed? reading rest
  | items => setFlags? reading items

-- What an opening parenthesis begins.
def group? (reading : Reading) (cs : List Char) : Option (Reading × List Char) :=
  match skipBlank reading.flags cs with
  | '?' :: rest => special? reading rest
  | rest => some (reading.openGroup reading.flags, rest)

-- A trailing `?` asks for as few repetitions as possible, which changes nothing that shows.
def skipLazy : List Char → List Char
  | '?' :: rest => rest
  | rest => rest

-- The upper bound of a counted repetition, after the lower one. Without a comma they are the same.
def upperBound? (flags : Flags) (least : Nat) : List Char → Option (Option Nat × List Char)
  | ',' :: more =>
    match skipBlank flags more with
    | '}' :: rest => some (none, '}' :: rest)
    | bounded => (count? flags bounded).map fun (most, rest) => (some most, rest)
  | rest => some (some least, rest)

-- A counted repetition, after its brace.
def counted? (reading : Reading) (cs : List Char) : Option (Reading × List Char) := do
  let flags := reading.flags
  let (least, afterLeast) ← count? flags (skipBlank flags cs)
  let (most, afterMost) ← upperBound? flags least afterLeast
  match afterMost with
  | '}' :: rest =>
    guard (most.all (least ≤ ·))
    let repeated ← reading.repeatLast? least (most.map (· - least))
    return (repeated, skipLazy (skipBlank flags rest))
  | _ => none

def dot? (flags : Flags) : Option CharSet :=
  if !flags.unicode then none
  else if flags.dotMatchesNewline then some .any
  else if flags.crlf then some (.compl (.ofChars ['\r', '\n']))
  else some (.compl (.ofChars ['\n']))

def startAnchor (flags : Flags) : Anchor :=
  if !flags.multiLine then .textStart else if flags.crlf then .crlfLineStart else .lineStart

def endAnchor (flags : Flags) : Anchor :=
  if !flags.multiLine then .textEnd else if flags.crlf then .crlfLineEnd else .lineEnd

def addAtom? (reading : Reading) : Atom → Option Reading
  | .literal c raw =>
    if !reading.flags.unicode && raw && c.toNat ≥ 128 then none
    else some (reading.addSet (.ofChars (c :: caseVariants reading.flags c)) 0)
  | .set members => some (reading.addSet members 0)
  | .anchor a => some (reading.addAnchor a)

-- Reads what the character `c` begins.
def step? (reading : Reading) (c : Char) (rest : List Char) : Option (Reading × List Char) :=
  let flags := reading.flags
  match c with
  | '(' => group? reading rest
  | ')' => reading.closeGroup?.map (·, rest)
  | '|' => some ({ reading with level := reading.level.alternate }, rest)
  | '[' => (bracketed? flags rest).map fun (part, left) =>
      (reading.addSet part.set part.height, left)
  | '?' => (reading.repeatLast? 0 (some 1)).map (·, skipLazy rest)
  | '*' => (reading.repeatLast? 0 none).map (·, skipLazy rest)
  | '+' => (reading.repeatLast? 1 none).map (·, skipLazy rest)
  | '{' => counted? reading rest
  | '\\' => do
    let (atom, left) ← escape? flags rest
    return (← addAtom? reading atom, left)
  | '.' => (dot? flags).map fun set => (reading.addSet set 0, rest)
  | '^' => some (reading.addAnchor (startAnchor flags), rest)
  | '$' => some (reading.addAnchor (endAnchor flags), rest)
  | _ => (addAtom? reading (.literal c false)).map (·, rest)

-- Each round reads at least one character, so the length of the text is fuel enough.
def read? : Nat → Reading → List Char → Option Reading
  | 0, _, _ => none
  | fuel + 1, reading, cs =>
    match skipBlank reading.flags cs with
    | [] => some reading
    | c :: rest => (step? reading c rest).bind fun (next, left) => read? fuel next left

-- How deep a pattern may be nested.
def maxHeight : Nat := 250

-- The expression that a pattern describes, if the pattern is well formed.
def parse? (pattern : List Char) : Option Expr := do
  let reading ← read? (pattern.length + 1) {} pattern
  guard reading.outer.isEmpty
  let piece := reading.level.piece
  guard (piece.height ≤ maxHeight)
  return piece.expr

end RpcRouting.Regex.Syntax
