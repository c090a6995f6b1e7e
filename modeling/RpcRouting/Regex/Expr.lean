import RpcRouting.Unicode.Property

namespace RpcRouting.Regex

open Unicode

-- The place between two neighbouring characters of a text. At the ends of the text one side is
-- missing.
structure Gap where
  before : Option Char
  after : Option Char
deriving Repr, DecidableEq

-- Which characters belong to words.
inductive WordAlphabet where
  | unicode
  | ascii
deriving Repr, DecidableEq

namespace WordAlphabet

def asciiWord : CharSet :=
  .ranges [⟨0x30, 0x39, 1⟩, ⟨0x41, 0x5A, 1⟩, .single 0x5F, ⟨0x61, 0x7A, 1⟩]

def set : WordAlphabet → CharSet
  | .unicode => Property.word
  | .ascii => asciiWord

def onSide (alphabet : WordAlphabet) (side : Option Char) : Bool :=
  side.any fun c => asciiWord.contains c || alphabet.set.contains c

end WordAlphabet

-- A condition on a gap.
inductive Anchor where
  | textStart
  | textEnd
  | lineStart
  | lineEnd
  -- the same with `\r`, `\n` and `\r\n` all ending a line
  | crlfLineStart
  | crlfLineEnd
  | wordBoundary (alphabet : WordAlphabet)
  | noWordBoundary (alphabet : WordAlphabet)
  | wordStart (alphabet : WordAlphabet)
  | wordEnd (alphabet : WordAlphabet)
  | wordStartHalf (alphabet : WordAlphabet)
  | wordEndHalf (alphabet : WordAlphabet)
deriving Repr, DecidableEq

namespace Anchor

def holds : Anchor → Gap → Bool
  | .textStart, gap => gap.before.isNone
  | .textEnd, gap => gap.after.isNone
  | .lineStart, gap => gap.before.all (· = '\n')
  | .lineEnd, gap => gap.after.all (· = '\n')
  | .crlfLineStart, gap =>
    gap.before.all fun c => c = '\n' || (c = '\r' && gap.after != some '\n')
  | .crlfLineEnd, gap =>
    gap.after.all fun c => c = '\r' || (c = '\n' && gap.before != some '\r')
  | .wordBoundary a, gap => a.onSide gap.before != a.onSide gap.after
  | .noWordBoundary a, gap => a.onSide gap.before == a.onSide gap.after
  | .wordStart a, gap => !a.onSide gap.before && a.onSide gap.after
  | .wordEnd a, gap => a.onSide gap.before && !a.onSide gap.after
  | .wordStartHalf a, gap => !a.onSide gap.before
  | .wordEndHalf a, gap => !a.onSide gap.after

end Anchor

-- A regular expression as a description of texts. Which of several matches is preferred, and
-- what groups capture, plays no part in whether a text matches.
inductive Expr where
  | empty
  | one (set : CharSet)
  | anchor (condition : Anchor)
  | seq (a b : Expr)
  | alt (a b : Expr)
  -- `least` times in a row, and then up to `extra` times more, or any number of times more
  | rep (a : Expr) (least : Nat) (extra : Option Nat)
deriving Repr, DecidableEq

namespace Expr

def seqAll : List Expr → Expr
  | [] => .empty
  | [a] => a
  | a :: rest => .seq a (seqAll rest)

def altAll : List Expr → Expr
  | [] => .empty
  | [a] => a
  | a :: rest => .alt a (altAll rest)

end Expr

end RpcRouting.Regex
