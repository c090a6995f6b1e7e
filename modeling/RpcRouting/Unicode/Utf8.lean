import RpcRouting.Unicode.CharSet

namespace RpcRouting.Unicode

-- Sets of characters as ranges, and ranges as the bytes that UTF-8 has for them.

namespace CodeRange

def lastCode : Nat := 0x10FFFF

-- Code points that are no characters.
def surrogates : CodeRange := ⟨0xD800, 0xDFFF, 1⟩

-- The same code points, in ranges that leave none out.
def solid (range : CodeRange) : List CodeRange :=
  if range.step ≤ 1 then [range]
  else
    (List.range ((range.last - range.first) / range.step + 1)).map fun i =>
      .single (range.first + i * range.step)

-- Adds a range to ascending ranges that do not touch each other, and keeps them so.
def insert (range : CodeRange) : List CodeRange → List CodeRange
  | [] => [range]
  | next :: rest =>
    if range.last + 1 < next.first then range :: next :: rest
    else if next.last + 1 < range.first then next :: insert range rest
    else insert ⟨min range.first next.first, max range.last next.last, 1⟩ rest

def merge (ranges others : List CodeRange) : List CodeRange := ranges.foldr insert others

-- What ascending ranges leave out, from a code point on.
def gaps (start : Nat) : List CodeRange → List CodeRange
  | [] => if start ≤ lastCode then [⟨start, lastCode, 1⟩] else []
  | next :: rest =>
    let after := gaps (next.last + 1) rest
    if start < next.first then ⟨start, next.first - 1, 1⟩ :: after else after

def subtract (ranges others : List CodeRange) : List CodeRange :=
  gaps 0 (merge others (gaps 0 ranges))

-- Whole families of code points, where a member of one is there.
def closure (families : List (List Nat)) (ranges : List CodeRange) : List CodeRange :=
  let met := families.filter fun family => family.any fun code => ranges.any (·.contains code)
  merge (met.flatten.map .single) ranges

end CodeRange

namespace CharSet

open CodeRange

-- The members of a set, in ascending ranges that do not touch each other.
def codeRanges : CharSet → List CodeRange
  | .ranges items => merge (items.flatMap solid) []
  | .union a b => merge a.codeRanges b.codeRanges
  | .inter a b => subtract a.codeRanges (gaps 0 b.codeRanges)
  | .diff a b => subtract a.codeRanges b.codeRanges
  | .compl a => gaps 0 a.codeRanges
  | .caseClosure a => closure CaseFolding.families a.codeRanges
  | .asciiCaseClosure a => closure CaseFolding.asciiFamilies a.codeRanges

end CharSet

-- The values that one byte of an encoding takes.
abbrev ByteRange := Nat × Nat

namespace Utf8

def encode (code : Nat) : List Nat :=
  (String.utf8EncodeChar (Char.ofNat code)).map UInt8.toNat

-- The last code point of the part to read first, where a range cannot be read as one sequence of
-- byte ranges: where the encodings get longer, or where a byte does not run through all its values
-- for each value of the one before it.
def cut? (first last : Nat) : Option Nat :=
  let longer := [0x7F, 0x7FF, 0xFFFF].find? fun code => first ≤ code && code < last
  let blocks := [0x40, 0x1000, 0x40000].findSome? fun block =>
    if first / block = last / block then none
    else if first % block ≠ 0 then some ((first / block + 1) * block - 1)
    else if (last + 1) % block ≠ 0 then some (last / block * block - 1)
    else none
  longer.or (if last ≤ 0x7F then none else blocks)

-- The sequences of byte ranges for a range of characters. A range is cut at most three times where
-- the encodings get longer, and twice for each byte but the first, so the fuel is enough.
def sequences : Nat → Nat → Nat → List (List ByteRange)
  | 0, _, _ => []
  | fuel + 1, first, last =>
    match cut? first last with
    | some middle => sequences fuel first middle ++ sequences fuel (middle + 1) last
    | none => [(encode first).zip (encode last)]

def rangeSequences (range : CodeRange) : List (List ByteRange) :=
  sequences 16 range.first range.last

-- How many nodes a tree has that branches where sequences, in their order, part.
def nodeCount : List ByteRange → List (List ByteRange) → Nat
  | _, [] => 0
  | previous, next :: rest =>
    let shared := ((previous.zip next).takeWhile fun (a, b) => a = b).length
    next.length - shared + nodeCount next rest

end Utf8

end RpcRouting.Unicode
