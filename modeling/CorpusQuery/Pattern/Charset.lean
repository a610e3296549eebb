import CorpusQuery.Hexadecimal
import CorpusQuery.Segments

/-!
# Sets of characters

A set of characters is kept as ranges of their numbers, in ascending order and apart from each
other. A union holds what one of its parts holds (`Charset.contains_union`). A surrogate is no
character; a range may run across them all the same, but a complement leaves them out.
-/

namespace CorpusQuery.Pattern

structure Charset where
  ranges : List (Nat × Nat)
  deriving DecidableEq

namespace Charset

/-- Adds a range to ranges in order, where it becomes one with those that it overlaps or touches. -/
def addRange (r : Nat × Nat) : List (Nat × Nat) → List (Nat × Nat)
  | [] => [r]
  | s :: rs =>
    if r.2 + 1 < s.1 then r :: s :: rs
    else if s.2 + 1 < r.1 then s :: addRange r rs
    else addRange (min r.1 s.1, max r.2 s.2) rs

/-- The set that these ranges make up in any order. -/
def ofRanges (rs : List (Nat × Nat)) : Charset :=
  ⟨rs.foldr addRange []⟩

def empty : Charset := ⟨[]⟩

def singleton (c : Char) : Charset := ⟨[(c.toNat, c.toNat)]⟩

/-- The characters from the number `a` to the number `b`. -/
def range (a b : Nat) : Charset := ⟨[(a, b)]⟩

/-- The number of the last character. -/
def greatest : Nat := 0x10FFFF

/-- All characters but the surrogates. -/
def scalars : Charset := ⟨[(0, 0xD7FF), (0xE000, greatest)]⟩

def union (s t : Charset) : Charset :=
  ⟨s.ranges.foldr addRange t.ranges⟩

/-- What no range covers from the number `n` on. -/
def gapsFrom (n : Nat) : List (Nat × Nat) → List (Nat × Nat)
  | [] => if n ≤ greatest then [(n, greatest)] else []
  | (a, b) :: rs => if n < a then (n, a - 1) :: gapsFrom (b + 1) rs else gapsFrom (b + 1) rs

def gaps (s : Charset) : Charset := ⟨gapsFrom 0 s.ranges⟩

def inter (s t : Charset) : Charset :=
  (s.gaps.union t.gaps).gaps

def diff (s t : Charset) : Charset :=
  s.inter t.gaps

/-- What is in one of the two sets but not in both. -/
def symmDiff (s t : Charset) : Charset :=
  (s.union t).diff (s.inter t)

def complement (s : Charset) : Charset :=
  scalars.diff s

/-- Whether the character with the number `n` is in the set. -/
def contains (s : Charset) (n : Nat) : Bool :=
  s.ranges.any fun (a, b) => a ≤ n && n ≤ b

/-- Whether all characters are among the first 128. -/
def isAscii (s : Charset) : Bool :=
  s.ranges.all fun (_, b) => b < 128

/-- The only character of the set, if there is only one. -/
def only? (s : Charset) : Option Char :=
  match s.ranges with
  | [(a, b)] => if a = b then some (.ofNat a) else none
  | _ => none

theorem contains_addRange (r : Nat × Nat) (rs : List (Nat × Nat)) (n : Nat) :
    contains ⟨addRange r rs⟩ n = (decide (r.1 ≤ n ∧ n ≤ r.2) || contains ⟨rs⟩ n) := by
  fun_induction addRange r rs with
  | case1 r => simp [contains]
  | case2 r s rs h => simp [contains]
  | case3 r s rs h h' ih =>
    simp only [contains, List.any_cons] at ih ⊢
    rw [ih, Bool.or_left_comm]
  | case4 r s rs h h' ih =>
    rw [ih]
    simp only [contains, List.any_cons, ← Bool.or_assoc]
    congr 1
    grind

theorem contains_union (s t : Charset) (n : Nat) :
    (s.union t).contains n = (s.contains n || t.contains n) := by
  obtain ⟨rs⟩ := s
  induction rs with
  | nil => simp [union, contains]
  | cons r rs ih =>
    simp only [union, List.foldr_cons] at ih ⊢
    rw [contains_addRange, ih]
    simp [contains, Bool.or_assoc]

/-! ## Texts for sets -/

/-- The range that a word such as `41-5A` or `AA` stands for. -/
def rangeOfWord? (w : List Char) : Option (Nat × Nat) := do
  let last := (w.dropWhile (· != '-')).drop 1
  let a ← Hexadecimal.value? (w.takeWhile (· != '-'))
  if last.isEmpty then return (a, a) else return (a, ← Hexadecimal.value? last)

/-- The set that some lines of such words stand for. -/
def ofLines (lines : List String) : Charset :=
  ofRanges ((lines.flatMap (Segments.between ' ' ·.toList)).filterMap rangeOfWord?)

def ofText (line : String) : Charset :=
  ofLines [line]

end Charset

end CorpusQuery.Pattern
