import RpcRouting.Unicode.CaseFolding
import RpcRouting.Unicode.CodeTable

namespace RpcRouting.Unicode

-- A set of characters, kept as the expression that describes it. Membership is decided on the
-- expression, so no operation has to bring ranges into a normal form.
inductive CharSet where
  | ranges (items : List CodeRange)
  | union (a b : CharSet)
  | inter (a b : CharSet)
  | diff (a b : CharSet)
  | compl (a : CharSet)
  -- everything that differs from a member by letter case only
  | caseClosure (a : CharSet)
  -- the same, for the letters A to Z alone
  | asciiCaseClosure (a : CharSet)
deriving Repr, DecidableEq

namespace CharSet

def empty : CharSet := .ranges []

def ofChars (chars : List Char) : CharSet := .ranges (chars.map (.single ·.toNat))

def between (first last : Char) : CharSet := .ranges [⟨first.toNat, last.toNat, 1⟩]

def ofText (text : String) : CharSet := .ranges (CodeTable.ranges text)

def any : CharSet := .compl empty

def symmDiff (a b : CharSet) : CharSet := .diff (.union a b) (.inter a b)

def unionAll (sets : List CharSet) : CharSet := sets.foldr .union empty

def contains : CharSet → Char → Bool
  | .ranges items, c => items.any (·.contains c.toNat)
  | .union a b, c => a.contains c || b.contains c
  | .inter a b, c => a.contains c && b.contains c
  | .diff a b, c => a.contains c && !b.contains c
  | .compl a, c => !a.contains c
  | .caseClosure a, c => a.contains c || (CaseFolding.variants c).any a.contains
  | .asciiCaseClosure a, c => a.contains c || (CaseFolding.asciiVariants c).any a.contains

end CharSet

end RpcRouting.Unicode
