import RpcRouting.Regex.Expr
import RpcRouting.Unicode.PropertyName

namespace RpcRouting.Regex.Syntax

open Unicode

-- How the text of a pattern is read. Flags last until the end of the group that sets them.
structure Flags where
  ignoreCase : Bool := false
  multiLine : Bool := false
  dotMatchesNewline : Bool := false
  unicode : Bool := true
  crlf : Bool := false
  -- blanks and `#` comments between the parts of the pattern mean nothing
  verbose : Bool := false
deriving Repr, DecidableEq

def isBlank (c : Char) : Bool := Property.whiteSpace.contains c

-- Reads the characters that `keep` accepts, passing over blanks and comments if they mean nothing.
-- The first argument says whether the text begins inside a comment.
def collect (verbose : Bool) (keep : Char → Bool) : Bool → List Char → List Char × List Char
  | _, [] => ([], [])
  | true, c :: rest => collect verbose keep (c ≠ '\n') rest
  | false, c :: rest =>
    if verbose && isBlank c then collect verbose keep false rest
    else if verbose && c = '#' then collect verbose keep true rest
    else if keep c then
      let (kept, left) := collect verbose keep false rest
      (c :: kept, left)
    else ([], c :: rest)

def skipBlank (flags : Flags) (cs : List Char) : List Char :=
  (collect flags.verbose (fun _ => false) false cs).2

def isHexDigit (c : Char) : Bool :=
  c.isDigit || ('a' ≤ c && c ≤ 'f') || ('A' ≤ c && c ≤ 'F')

def hexDigitValue (c : Char) : Nat :=
  if c.isDigit then c.toNat - '0'.toNat else c.toLower.toNat - 'a'.toNat + 10

def hexNumber (digits : List Char) : Nat :=
  digits.foldl (fun n c => 16 * n + hexDigitValue c) 0

def decimalNumber (digits : List Char) : Nat :=
  digits.foldl (fun n c => 10 * n + (c.toNat - '0'.toNat)) 0

-- The character with a code, if there is one.
def charOfCode? (code : Nat) : Option Char :=
  if code.isValidChar then some (Char.ofNat code) else none

-- A number of a counted repetition. Blanks around it are always allowed.
def count? (flags : Flags) (cs : List Char) : Option (Nat × List Char) :=
  let (digits, rest) := collect flags.verbose Char.isDigit false (cs.dropWhile isBlank)
  let n := decimalNumber digits
  if digits.isEmpty || n ≥ UInt32.size then none
  else some (n, skipBlank flags (rest.dropWhile isBlank))

-- Exactly `n` hexadecimal digits.
def hexDigits? (flags : Flags) : Nat → List Char → Option (List Char × List Char)
  | 0, cs => some ([], cs)
  | n + 1, c :: rest =>
    if isHexDigit c then
      (hexDigits? flags n (skipBlank flags rest)).map fun (digits, left) => (c :: digits, left)
    else none
  | _ + 1, [] => none

-- Characters that `keep` accepts, up to a closing brace.
def braced? (flags : Flags) (keep : Char → Bool) (cs : List Char) :
    Option (List Char × List Char) :=
  match collect flags.verbose keep false cs with
  | (kept, '}' :: rest) => some (kept, rest)
  | _ => none

-- The code after `\x`, `\u` or `\U`: so many digits, or any number of them in braces.
def hexCode? (flags : Flags) (width : Nat) (cs : List Char) : Option (Char × List Char) :=
  match skipBlank flags cs with
  | '{' :: inner =>
    (braced? flags isHexDigit inner).bind fun (digits, rest) =>
      if digits.isEmpty then none
      else (charOfCode? (hexNumber digits)).map (·, skipBlank flags rest)
  | digits =>
    (hexDigits? flags width digits).bind fun (digits, rest) =>
      (charOfCode? (hexNumber digits)).map (·, rest)

-- One character of a pattern, or what a backslash makes of it.
inductive Atom where
  -- `raw`: written as a two-digit code, which stands for a byte where Unicode is off
  | literal (c : Char) (raw : Bool)
  | set (members : CharSet)
  | anchor (condition : Anchor)
deriving Repr, DecidableEq

-- Letters of any case that match `c`.
def caseVariants (flags : Flags) (c : Char) : List Char :=
  if !flags.ignoreCase then []
  else if flags.unicode then CaseFolding.variants c
  else CaseFolding.asciiVariants c

def closeCase (flags : Flags) (set : CharSet) : CharSet :=
  if !flags.ignoreCase then set
  else if flags.unicode then .caseClosure set
  else .asciiCaseClosure set

-- Where Unicode is off a complement would hold bytes that are no text, so there is none.
def complement? (flags : Flags) (negated : Bool) (set : CharSet) : Option CharSet :=
  if !negated then some set else if flags.unicode then some (.compl set) else none

def asciiDigit : CharSet := .between '0' '9'

def asciiSpace : CharSet := .ranges [⟨0x09, 0x0D, 1⟩, .single 0x20]

-- `\d`, `\s` and `\w`, and with a capital letter their complements.
def perlClass? (flags : Flags) (letter : Char) : Option CharSet :=
  let set :=
    match letter.toLower with
    | 'd' => if flags.unicode then Property.digit else asciiDigit
    | 's' => if flags.unicode then Property.whiteSpace else asciiSpace
    | _ => if flags.unicode then Property.word else WordAlphabet.asciiWord
  complement? flags letter.isUpper set

-- Cuts a name at the first `:`, `=` or `!=` that gives a property its value.
def splitAtNotEqual : List Char → Option (List Char × List Char)
  | '!' :: '=' :: rest => some ([], rest)
  | c :: rest => (splitAtNotEqual rest).map fun (name, value) => (c :: name, value)
  | [] => none

def splitAt (separator : Char) (cs : List Char) : Option (List Char × List Char) :=
  match cs.dropWhile (· != separator) with
  | _ :: value => some (cs.takeWhile (· != separator), value)
  | [] => none

def propertySet? (name : List Char) : Option CharSet :=
  match (splitAtNotEqual name).or ((splitAt ':' name).or (splitAt '=' name)) with
  | some (property, value) => PropertyName.lookupValue? property value
  | none => PropertyName.lookup? name

-- The name of a property: a letter, or what stands in braces.
def propertyName? (flags : Flags) (cs : List Char) : Option (List Char × List Char) :=
  match skipBlank flags cs with
  | '{' :: inner => braced? flags (· != '}') inner
  | '\\' :: _ => none
  | c :: rest => some ([c], skipBlank flags rest)
  | [] => none

-- What follows `\p` or `\P`.
def unicodeClass? (flags : Flags) (negated : Bool) (cs : List Char) :
    Option (CharSet × List Char) := do
  guard flags.unicode
  let (name, rest) ← propertyName? flags cs
  let set ← propertySet? name
  let set ← complement? flags negated (closeCase flags set)
  return (set, rest)

def metaCharacters : List Char := "\\.+*?()|[]\x7b\x7d^$#&-~".toList

-- A backslash takes its meaning from every ASCII character that is neither a letter, a digit nor
-- an angle bracket.
def isEscapable (c : Char) : Bool :=
  metaCharacters.contains c ||
    (c.toNat < 128 && !c.isAlphanum && c != '<' && c != '>')

def isBoundaryNameChar (c : Char) : Bool := c.isAlpha || c == '-'

def namedBoundary? (alphabet : WordAlphabet) : String → Option Anchor
  | "start" => some (.wordStart alphabet)
  | "end" => some (.wordEnd alphabet)
  | "start-half" => some (.wordStartHalf alphabet)
  | "end-half" => some (.wordEndHalf alphabet)
  | _ => none

-- What may follow `\b`: the name of a kind of boundary in braces. Braces that cannot hold one are
-- left for a counted repetition.
def boundary? (flags : Flags) (alphabet : WordAlphabet) (cs : List Char) :
    Option (Anchor × List Char) :=
  match cs with
  | '{' :: inner =>
    match skipBlank flags inner with
    | [] => none
    | first :: more =>
      if !isBoundaryNameChar first then some (.wordBoundary alphabet, cs)
      else
        (braced? flags isBoundaryNameChar (first :: more)).bind fun (name, rest) =>
          (namedBoundary? alphabet (String.ofList name)).map (·, rest)
  | _ => some (.wordBoundary alphabet, cs)

def alphabet (flags : Flags) : WordAlphabet := if flags.unicode then .unicode else .ascii

-- What a backslash begins. The text starts after it.
def escape? (flags : Flags) : List Char → Option (Atom × List Char)
  | [] => none
  | c :: rest =>
    if c.isDigit then none
    else if c = 'x' then
      (hexCode? flags 2 rest).map fun (d, left) =>
        (.literal d ((skipBlank flags rest).head? != some '{'), left)
    else if c = 'u' then
      (hexCode? flags 4 rest).map fun (d, left) => (.literal d false, left)
    else if c = 'U' then
      (hexCode? flags 8 rest).map fun (d, left) => (.literal d false, left)
    else if c = 'p' || c = 'P' then
      (unicodeClass? flags (c = 'P') rest).map fun (set, left) => (.set set, left)
    else if ['d', 's', 'w', 'D', 'S', 'W'].contains c then
      (perlClass? flags c).map fun set => (.set set, rest)
    else if isEscapable c then some (.literal c false, rest)
    else
      match c with
      | 'a' => some (.literal '\x07' false, rest)
      | 'f' => some (.literal '\x0C' false, rest)
      | 't' => some (.literal '\t' false, rest)
      | 'n' => some (.literal '\n' false, rest)
      | 'r' => some (.literal '\r' false, rest)
      | 'v' => some (.literal '\x0B' false, rest)
      | 'A' => some (.anchor .textStart, rest)
      | 'z' => some (.anchor .textEnd, rest)
      | 'b' => (boundary? flags (alphabet flags) rest).map fun (a, left) => (.anchor a, left)
      | 'B' => some (.anchor (.noWordBoundary (alphabet flags)), rest)
      | '<' => some (.anchor (.wordStart (alphabet flags)), rest)
      | '>' => some (.anchor (.wordEnd (alphabet flags)), rest)
      | _ => none

end RpcRouting.Regex.Syntax
