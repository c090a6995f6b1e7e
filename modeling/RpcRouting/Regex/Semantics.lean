import RpcRouting.Regex.Expr

namespace RpcRouting.Regex

-- The gap before position `i` of a text.
def gapAt (text : List Char) (i : Nat) : Gap :=
  ⟨if i = 0 then none else text[i - 1]?, text[i]?⟩

-- `Spans text e i j`: the expression `e` matches the characters of `text` from position `i` up to
-- position `j`.
inductive Spans (text : List Char) : Expr → Nat → Nat → Prop where
  | empty (i : Nat) (hi : i ≤ text.length) : Spans text .empty i i
  | one (set : Unicode.CharSet) (i : Nat) (c : Char) (hc : text[i]? = some c)
      (hset : set.contains c) : Spans text (.one set) i (i + 1)
  | anchor (a : Anchor) (i : Nat) (hi : i ≤ text.length) (ha : a.holds (gapAt text i)) :
      Spans text (.anchor a) i i
  | seq {a b : Expr} {i j k : Nat} (ha : Spans text a i j) (hb : Spans text b j k) :
      Spans text (.seq a b) i k
  | left {a b : Expr} {i j : Nat} (ha : Spans text a i j) : Spans text (.alt a b) i j
  | right {a b : Expr} {i j : Nat} (hb : Spans text b i j) : Spans text (.alt a b) i j
  | stop (a : Expr) (extra : Option Nat) (i : Nat) (hi : i ≤ text.length) :
      Spans text (.rep a 0 extra) i i
  | again {a : Expr} {least : Nat} {extra : Option Nat} {i j k : Nat} (ha : Spans text a i j)
      (hrest : Spans text (.rep a least extra) j k) : Spans text (.rep a (least + 1) extra) i k
  | more {a : Expr} {extra : Option Nat} {i j k : Nat} (hextra : extra ≠ some 0)
      (ha : Spans text a i j) (hrest : Spans text (.rep a 0 (extra.map (· - 1))) j k) :
      Spans text (.rep a 0 extra) i k

-- Some part of the text matches.
def Occurs (e : Expr) (text : List Char) : Prop := ∃ i j, Spans text e i j

-- The text matches from its first to its last character.
def Covers (e : Expr) (text : List Char) : Prop := Spans text e 0 text.length

end RpcRouting.Regex
