import RpcRouting.Regex.Expr

namespace RpcRouting.Regex

open Unicode

-- An expression in which every single-character part can carry a mark. A mark says that some
-- match, begun at one of the gaps passed so far, has just read that part. Advancing all marks by
-- one character takes time linear in the expression, whatever the text.
inductive Marked where
  | empty
  | one (set : CharSet) (mark : Bool)
  | anchor (condition : Anchor)
  | seq (a b : Marked)
  | alt (a b : Marked)
  | star (a : Marked)
deriving Repr, DecidableEq

namespace Marked

-- `n` copies in a row, halved at each step to keep the tree flat.
def power (a : Marked) : Nat → Nat → Marked
  | 0, _ => .empty
  | _ + 1, 0 => .empty
  | _ + 1, 1 => a
  | fuel + 1, n => .seq (power a fuel (n / 2)) (power a fuel (n - n / 2))

def copies (a : Marked) (n : Nat) : Marked := power a n n

def optional (a : Marked) : Marked := .alt a .empty

-- What an advance finds at a gap: whether a match ends there, whether the expression matches
-- nothing there, and the marks after the next character, given whether a match begins there.
structure Advance where
  ends : Bool
  nullable : Bool
  next : Bool → Marked

def advance (gap : Gap) : Marked → Advance
  | .empty => ⟨false, true, fun _ => .empty⟩
  | .one set mark => ⟨mark, false, fun entered => .one set (entered && gap.after.any set.contains)⟩
  | .anchor a => ⟨false, a.holds gap, fun _ => .anchor a⟩
  | .seq a b =>
    let first := a.advance gap
    let second := b.advance gap
    ⟨second.ends || (first.ends && second.nullable), first.nullable && second.nullable,
      fun entered => .seq (first.next entered)
        (second.next ((entered && first.nullable) || first.ends))⟩
  | .alt a b =>
    let first := a.advance gap
    let second := b.advance gap
    ⟨first.ends || second.ends, first.nullable || second.nullable,
      fun entered => .alt (first.next entered) (second.next entered)⟩
  | .star a =>
    let inner := a.advance gap
    ⟨inner.ends, true, fun entered => .star (inner.next (entered || inner.ends))⟩

-- Whether a match ends at some gap of the rest of the text, with a match beginning at each.
def occursFrom (before : Option Char) (state : Marked) : List Char → Bool
  | [] =>
    let here := state.advance ⟨before, none⟩
    here.ends || here.nullable
  | c :: rest =>
    let here := state.advance ⟨before, some c⟩
    here.ends || here.nullable || occursFrom (some c) (here.next true) rest

end Marked

namespace Expr

def unmarked : Expr → Marked
  | .empty => .empty
  | .one set => .one set false
  | .anchor a => .anchor a
  | .seq a b => .seq a.unmarked b.unmarked
  | .alt a b => .alt a.unmarked b.unmarked
  | .rep a least none => .seq (a.unmarked.copies least) (.star a.unmarked)
  | .rep a least (some extra) =>
    .seq (a.unmarked.copies least) (a.unmarked.optional.copies extra)

def occurs (e : Expr) (text : List Char) : Bool := e.unmarked.occursFrom none text

end Expr

end RpcRouting.Regex
