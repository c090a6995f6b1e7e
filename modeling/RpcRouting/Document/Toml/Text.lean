import RpcRouting.Document.Json.Parser

namespace RpcRouting.Document.Toml

open Json (hexValue?)

def isBlank (c : Char) : Bool := c == ' ' || c == '\t'

def skipBlank (cs : List Char) : List Char := cs.dropWhile isBlank

def lineBreak? : List Char → Option (List Char)
  | '\n' :: rest => some rest
  | '\r' :: '\n' :: rest => some rest
  | _ => none

-- What may stand in comments and strings: everything but control characters, and the tabulator.
def isPrintable (c : Char) : Bool := c == '\t' || (0x20 ≤ c.toNat && c.toNat != 0x7F)

-- Passes over a comment, but not over the end of its line.
def skipComment : List Char → List Char
  | '#' :: rest => rest.dropWhile isPrintable
  | cs => cs

theorem length_dropWhile_le (p : Char → Bool) (cs : List Char) :
    (cs.dropWhile p).length ≤ cs.length := (List.dropWhile_sublist p).length_le

-- Passes over blanks and line breaks.
def skipLines : List Char → List Char
  | '\n' :: rest => skipLines rest
  | '\r' :: '\n' :: rest => skipLines rest
  | c :: rest => if isBlank c then skipLines rest else c :: rest
  | [] => []

theorem length_skipLines_le (cs : List Char) : (skipLines cs).length ≤ cs.length := by
  fun_induction skipLines cs with
  | case1 rest ih => exact Nat.le_succ_of_le ih
  | case2 rest ih => exact Nat.le_succ_of_le (Nat.le_succ_of_le ih)
  | case3 c rest _ _ _ ih => exact Nat.le_succ_of_le ih
  | case4 => exact Nat.le_refl _
  | case5 => exact Nat.le_refl _

def hexNumber? (digits : List Char) : Option Nat :=
  digits.foldlM (fun n c => (hexValue? c).map fun d => 16 * n + d) 0

-- The character with a code of so many hexadecimal digits.
def coded? (width : Nat) (cs : List Char) : Option (Char × List Char) :=
  if cs.length < width then none
  else
    match hexNumber? (cs.take width) with
    | some code => if code.isValidChar then some (Char.ofNat code, cs.drop width) else none
    | none => none

-- What a backslash stands for. The text starts after it.
def escape? : List Char → Option (Char × List Char)
  | 'b' :: rest => some ('\x08', rest)
  | 't' :: rest => some ('\t', rest)
  | 'n' :: rest => some ('\n', rest)
  | 'f' :: rest => some ('\x0C', rest)
  | 'r' :: rest => some ('\r', rest)
  | '"' :: rest => some ('"', rest)
  | '\\' :: rest => some ('\\', rest)
  | 'u' :: rest => coded? 4 rest
  | 'U' :: rest => coded? 8 rest
  | _ => none

theorem length_coded?_le {width : Nat} {cs rest : List Char} {c : Char}
    (h : coded? width cs = some (c, rest)) : rest.length ≤ cs.length := by
  unfold coded? at h
  split at h
  · exact absurd h (by simp)
  · split at h
    · split at h
      · obtain ⟨-, rfl⟩ := Prod.mk.inj (Option.some.inj h)
        rw [List.length_drop]
        omega
      · exact absurd h (by simp)
    · exact absurd h (by simp)

theorem length_escape?_lt {cs rest : List Char} {c : Char}
    (h : escape? cs = some (c, rest)) : rest.length < cs.length := by
  unfold escape? at h
  split at h
  case h_8 => exact Nat.lt_succ_of_le (length_coded?_le h)
  case h_9 => exact Nat.lt_succ_of_le (length_coded?_le h)
  case h_10 => exact absurd h (by simp)
  all_goals
    obtain ⟨-, rfl⟩ := Prod.mk.inj (Option.some.inj h)
    exact Nat.lt_succ_self _

-- The rest of a string on one line, with escapes, up to its closing quote.
def basic? (cs : List Char) : Option (List Char × List Char) :=
  match cs with
  | [] => none
  | '"' :: rest => some ([], rest)
  | '\\' :: rest =>
    match h : escape? rest with
    | none => none
    | some (c, more) =>
      have := length_escape?_lt h
      (basic? more).map fun (text, left) => (c :: text, left)
  | c :: rest =>
    if isPrintable c then (basic? rest).map fun (text, left) => (c :: text, left) else none
termination_by cs.length

-- The rest of a string on one line, without escapes, up to its closing apostrophe.
def literal? : List Char → Option (List Char × List Char)
  | [] => none
  | '\'' :: rest => some ([], rest)
  | c :: rest =>
    if isPrintable c then (literal? rest).map fun (text, left) => (c :: text, left) else none

-- The closing quotes of a string of several lines. Up to two quotes before the last three belong
-- to the string. Says how many, if the text starts with a closing.
def closing? (quote : Char) (cs : List Char) : Option (Nat × List Char) :=
  let run := (cs.takeWhile (· == quote)).length
  if 3 ≤ run then some (min (run - 3) 2, cs.drop (min run 5)) else none

-- The text after a backslash at the end of a line: the line break is passed over, with the blanks
-- and line breaks after it.
def joinedLine? (cs : List Char) : Option (List Char) :=
  (lineBreak? (skipBlank cs)).map skipLines

theorem length_lineBreak?_lt {cs rest : List Char} (h : lineBreak? cs = some rest) :
    rest.length < cs.length := by
  unfold lineBreak? at h
  split at h
  case h_1 =>
    obtain rfl := Option.some.inj h
    exact Nat.lt_succ_self _
  case h_2 =>
    obtain rfl := Option.some.inj h
    exact Nat.lt_succ_of_lt (Nat.lt_succ_self _)
  case h_3 => exact absurd h (by simp)

theorem length_joinedLine?_lt {cs rest : List Char} (h : joinedLine? cs = some rest) :
    rest.length < cs.length := by
  obtain ⟨left, hleft, rfl⟩ := Option.map_eq_some_iff.mp h
  exact Nat.lt_of_le_of_lt (length_skipLines_le left)
    (Nat.lt_of_lt_of_le (length_lineBreak?_lt hleft) (length_dropWhile_le _ cs))

-- The rest of a string of several lines, with escapes. Line breaks count as line feeds.
def multiBasic? (cs : List Char) : Option (List Char × List Char) :=
  match closing? '"' cs with
  | some (kept, rest) => some (List.replicate kept '"', rest)
  | none =>
    match cs with
    | [] => none
    | '\n' :: rest => (multiBasic? rest).map fun (text, left) => ('\n' :: text, left)
    | '\r' :: '\n' :: rest => (multiBasic? rest).map fun (text, left) => ('\n' :: text, left)
    | '\\' :: rest =>
      match h : joinedLine? rest with
      | some more =>
        have := length_joinedLine?_lt h
        multiBasic? more
      | none =>
        match h : escape? rest with
        | none => none
        | some (c, more) =>
          have := length_escape?_lt h
          (multiBasic? more).map fun (text, left) => (c :: text, left)
    | c :: rest =>
      if isPrintable c then (multiBasic? rest).map fun (text, left) => (c :: text, left) else none
termination_by cs.length

-- The rest of a string of several lines, without escapes.
def multiLiteral? (cs : List Char) : Option (List Char × List Char) :=
  match closing? '\'' cs with
  | some (kept, rest) => some (List.replicate kept '\'', rest)
  | none =>
    match cs with
    | [] => none
    | '\n' :: rest => (multiLiteral? rest).map fun (text, left) => ('\n' :: text, left)
    | '\r' :: '\n' :: rest => (multiLiteral? rest).map fun (text, left) => ('\n' :: text, left)
    | c :: rest =>
      if isPrintable c then (multiLiteral? rest).map fun (text, left) => (c :: text, left)
      else none
termination_by cs.length

-- A line break right after the opening quotes is no part of the string.
def afterOpening (cs : List Char) : List Char := (lineBreak? cs).getD cs

-- A string of any kind.
def string? : List Char → Option (List Char × List Char)
  | '"' :: '"' :: '"' :: rest => multiBasic? (afterOpening rest)
  | '"' :: rest => basic? rest
  | '\'' :: '\'' :: '\'' :: rest => multiLiteral? (afterOpening rest)
  | '\'' :: rest => literal? rest
  | _ => none

def isBareKeyChar (c : Char) : Bool := c.isAlphanum || c == '-' || c == '_'

-- One part of a key.
def keyPart? : List Char → Option (String × List Char)
  | '"' :: rest => (basic? rest).map fun (name, left) => (String.ofList name, left)
  | '\'' :: rest => (literal? rest).map fun (name, left) => (String.ofList name, left)
  | cs =>
    match cs.takeWhile isBareKeyChar with
    | [] => none
    | name => some (String.ofList name, cs.dropWhile isBareKeyChar)

-- The parts of a key, separated by points. Blanks around the parts mean nothing. The number of
-- parts is limited by `fuel`.
def keyParts? : Nat → List Char → Option (List String × List Char)
  | 0, _ => none
  | fuel + 1, cs => do
    let (name, afterName) ← keyPart? (skipBlank cs)
    match skipBlank afterName with
    | '.' :: rest =>
      let (names, left) ← keyParts? fuel rest
      return (name :: names, left)
    | left => return ([name], left)

-- Containers and keys may not go deeper than this.
def maxDepth : Nat := 79

-- A key: the tables it leads through, and the last name.
structure Key where
  path : List String
  name : String
deriving Repr, DecidableEq

def key? (cs : List Char) : Option (Key × List Char) := do
  let (names, rest) ← keyParts? maxDepth cs
  let name ← names.getLast?
  return (⟨names.dropLast, name⟩, rest)

end RpcRouting.Document.Toml
