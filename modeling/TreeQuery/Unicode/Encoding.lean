import TreeQuery.Unicode.CharSet

/-!
# Ranges of characters in bytes

A range of characters is split until all members of a piece are encoded in the
same number of bytes and each byte runs through a range of its own.
-/

namespace TreeQuery

namespace Unicode

/-- The bytes of a code point in UTF-8. -/
def encode (code : Nat) : List Nat :=
  if code < 0x80 then [code]
  else if code < 0x800 then [0xC0 + code / 64, 0x80 + code % 64]
  else if code < 0x10000 then
    [0xE0 + code / 4096, 0x80 + code / 64 % 64, 0x80 + code % 64]
  else
    [0xF0 + code / 262144, 0x80 + code / 4096 % 64, 0x80 + code / 64 % 64,
      0x80 + code % 64]

/-- The code points that are encoded in one, two, three and four bytes; those
between the two ranges of three bytes stand for no character. -/
def widths : List (Nat × Nat) :=
  [(0, 0x7F), (0x80, 0x7FF), (0x800, 0xD7FF), (0xE000, 0xFFFF),
    (0x10000, 0x10FFFF)]

/-- The parts of a range that lie in the widths. -/
def splitByWidth (range : Nat × Nat) : List (Nat × Nat) :=
  widths.filterMap fun width =>
    let first := max range.1 width.1
    let last := min range.2 width.2
    if first ≤ last then some (first, last) else none

/-- Split a range that reaches into several blocks, so that no part has only a
piece of a block and more than that. -/
def splitByBlock (block : Nat) (range : Nat × Nat) : List (Nat × Nat) :=
  let (first, last) := range
  if first / block = last / block then [range]
  else
    let inner := (first + block - 1) / block * block
    let outer := (last + 1) / block * block
    (if first < inner then [(first, inner - 1)] else []) ++
      (if inner < outer then [(inner, outer - 1)] else []) ++
      (if outer ≤ last then [(outer, last)] else [])

/-- For each piece of a range, the ranges of its bytes. -/
def byteRanges (range : Nat × Nat) : List (List (Nat × Nat)) :=
  (splitByWidth range).flatMap fun part =>
    let pieces :=
      if part.2 < 0x80 then [part]
      else
        [64, 4096, 262144].foldl
          (fun pieces block => pieces.flatMap (splitByBlock block)) [part]
    pieces.map fun piece => List.zip (encode piece.1) (encode piece.2)

end Unicode

/-- For each piece of a set, the ranges of its bytes. -/
def CharSet.byteRanges (set : CharSet) : List (List (Nat × Nat)) :=
  set.ranges.toList.flatMap Unicode.byteRanges

end TreeQuery
