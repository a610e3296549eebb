import CorpusQuery.Error

/-!
# Occurrences

An occurrence says how often a part may stand: between `least` and `most` times, or, if it is
optional, not at all. The least count is never zero, absence being told by the flag alone, so
`{0,3}` is one to three times or absent. Two occurrences of neighbouring equal parts merge into one
where the rule of `Occurrence.merge` allows it.
-/

namespace CorpusQuery

/-- The largest count, which as an upper bound means that there is none. -/
def unbounded : Nat := 18446744073709551615

theorem toNat_le_unbounded (n : UInt64) : n.toNat ≤ unbounded := by
  have := n.toNat_lt
  simp only [unbounded]
  omega

structure Occurrence where
  least : Nat
  most : Nat
  optional : Bool
  one_le_least : 1 ≤ least := by decide
  least_le_most : least ≤ most := by decide
  most_le_unbounded : most ≤ unbounded := by decide
  deriving DecidableEq

namespace Occurrence

/-- Exactly one. -/
def once : Occurrence where
  least := 1
  most := 1
  optional := false

/-- One or none. -/
def atMostOnce : Occurrence where
  least := 1
  most := 1
  optional := true

/-- From `lo` to `hi` times; a lower bound of zero makes it optional. -/
def ofRange (lo hi : UInt64) : Except Error Occurrence :=
  if h : lo ≤ hi ∧ 1 ≤ hi then
    .ok {
      least := max lo.toNat 1
      most := hi.toNat
      optional := lo == 0
      one_le_least := Nat.le_max_right ..
      least_le_most := Nat.max_le.2 ⟨h.1, h.2⟩
      most_le_unbounded := toNat_le_unbounded hi }
  else
    .error (.illegalOccurrence lo hi)

def withOptional (o : Occurrence) (b : Bool) : Occurrence :=
  { o with optional := b }

def isOnce (o : Occurrence) : Bool :=
  decide (o = once)

/-- The bounds as the words that plans hold. -/
def leastWord (o : Occurrence) : UInt64 :=
  .ofNatLT o.least <| Nat.lt_of_le_of_lt (Nat.le_trans o.least_le_most o.most_le_unbounded)
    (by decide)

def mostWord (o : Occurrence) : UInt64 :=
  .ofNatLT o.most <| Nat.lt_of_le_of_lt o.most_le_unbounded (by decide)

/-- The upper bound of two runs in a row. -/
def mostTogether (a b : Occurrence) : Nat :=
  min (a.most + b.most) unbounded

theorem most_le_mostTogether (a b : Occurrence) : a.most ≤ a.mostTogether b :=
  Nat.le_min.2 ⟨Nat.le_add_right .., a.most_le_unbounded⟩

theorem most_le_mostTogether_right (a b : Occurrence) : b.most ≤ a.mostTogether b :=
  Nat.le_min.2 ⟨Nat.le_add_left .., b.most_le_unbounded⟩

/-- One occurrence for two runs in a row, if the rules find one. Two mandatory runs add their least
counts, unless the sum is out of range; an optional run must start at one, and then gives way to the
least count of the other. -/
def merge (a b : Occurrence) : Option Occurrence :=
  match a.optional, b.optional with
  | false, false =>
    if h : a.least + b.least ≤ unbounded then
      some {
        least := a.least + b.least
        most := a.mostTogether b
        optional := false
        one_le_least := Nat.le_trans a.one_le_least (Nat.le_add_right ..)
        least_le_most := Nat.le_min.2 ⟨Nat.add_le_add a.least_le_most b.least_le_most, h⟩
        most_le_unbounded := Nat.min_le_right .. }
    else
      none
  | false, true =>
    if b.least = 1 then
      some {
        least := a.least
        most := a.mostTogether b
        optional := false
        one_le_least := a.one_le_least
        least_le_most := Nat.le_trans a.least_le_most (a.most_le_mostTogether b)
        most_le_unbounded := Nat.min_le_right .. }
    else
      none
  | true, false =>
    if a.least = 1 then
      some {
        least := b.least
        most := a.mostTogether b
        optional := false
        one_le_least := b.one_le_least
        least_le_most := Nat.le_trans b.least_le_most (a.most_le_mostTogether_right b)
        most_le_unbounded := Nat.min_le_right .. }
    else
      none
  | true, true =>
    if a.least = 1 ∧ b.least = 1 then
      some {
        least := 1
        most := a.mostTogether b
        optional := true
        one_le_least := Nat.le_refl 1
        least_le_most :=
          Nat.le_trans (Nat.le_trans a.one_le_least a.least_le_most) (a.most_le_mostTogether b)
        most_le_unbounded := Nat.min_le_right .. }
    else
      none

/-- The range in braces; an optional one that starts at one is written as starting at zero, any
other optional one with a question mark. -/
def text (o : Occurrence) : String :=
  match o.optional, o.least with
  | true, 1 => s!"\x7b0,{o.most}\x7d"
  | true, lo => s!"\x7b{lo},{o.most}\x7d?"
  | false, lo => s!"\x7b{lo},{o.most}\x7d"

end Occurrence

end CorpusQuery
