import CorpusQuery.Pattern.Charset

/-!
# Characters as bytes

A range of characters is a list of sequences of byte ranges, in ascending order, whose products are
the encodings in UTF-8. A character of `m + 1` bytes has a mark in its first byte and six bits of
its number in each of the others.
-/

namespace CorpusQuery.Pattern

abbrev ByteRange := Nat × Nat

/-- The sequences for the numbers from `lo` to `hi`, where `m` bytes of six bits follow a byte that
is the rest of the number on top of `mark`. -/
def sequencesBelow (mark : Nat) : Nat → Nat → Nat → List (List ByteRange)
  | 0, lo, hi => [[(mark + lo, mark + hi)]]
  | m + 1, lo, hi =>
    let k := 1 <<< (6 * (m + 1))
    let a := lo / k
    let b := hi / k
    let within (n lo hi : Nat) : List (List ByteRange) :=
      (sequencesBelow 0x80 m lo hi).map ((mark + n, mark + n) :: ·)
    if a = b then within a (lo % k) (hi % k)
    else
      let first := if lo % k = 0 then [] else within a (lo % k) (k - 1)
      let last := if hi % k = k - 1 then [] else within b 0 (hi % k)
      let a := if lo % k = 0 then a else a + 1
      let b := if hi % k = k - 1 then b + 1 else b
      let whole :=
        if a < b then [(mark + a, mark + b - 1) :: List.replicate (m + 1) (0x80, 0xBF)] else []
      first ++ whole ++ last

/-- The ranges of numbers whose encodings have the same length, without the surrogates: the mark of
the first byte, how many follow it, and the bounds. -/
def encodings : List (Nat × Nat × Nat × Nat) := [
  (0, 0, 0, 0x7F), (0xC0, 1, 0x80, 0x7FF), (0xE0, 2, 0x800, 0xD7FF), (0xE0, 2, 0xE000, 0xFFFF),
  (0xF0, 3, 0x10000, Charset.greatest)]

/-- The sequences for a range of characters. -/
def sequences (r : Nat × Nat) : List (List ByteRange) :=
  encodings.flatMap fun (mark, m, lo, hi) =>
    if max r.1 lo ≤ min r.2 hi then sequencesBelow mark m (max r.1 lo) (min r.2 hi) else []

/-- The sequences for all characters of a set. -/
def Charset.sequences (s : Charset) : List (List ByteRange) :=
  s.ranges.flatMap Pattern.sequences

/-- Sequences put together by their beginnings. -/
inductive ByteTree where
  | node (ways : List (ByteRange × ByteTree))

namespace ByteTree

/-- Adds a sequence before all others, of which only the first way may have the same beginning. -/
def prepend : List ByteRange → ByteTree → ByteTree
  | [], t => t
  | r :: rs, .node [] => .node [(r, prepend rs (.node []))]
  | r :: rs, .node ((q, t) :: ways) =>
    if q = r then .node ((q, prepend rs t) :: ways)
    else .node ((r, prepend rs (.node [])) :: (q, t) :: ways)

def ofSequences (seqs : List (List ByteRange)) : ByteTree :=
  seqs.foldr prepend (.node [])

end ByteTree

end CorpusQuery.Pattern
