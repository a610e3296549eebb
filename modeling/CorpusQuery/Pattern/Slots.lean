/-!
# Slots

A memory that is limited to some number of slots. What is remembered has a description, which
decides on its slot, and a later description drives out an earlier one from the same slot.
-/

namespace CorpusQuery.Pattern

/-- Descriptions and what they are remembered for, arranged by the bits of their slots. -/
inductive Slots where
  | vacant
  | taken (description : List Nat) (n : Nat)
  | fork (even odd : Slots)

namespace Slots

/-- The slot, out of so many, for a description. -/
def slot (size : Nat) (description : List Nat) : Nat :=
  (description.foldl (fun h n => (h ^^^ n.toUInt64) * 1099511628211)
    (14695981039346656037 : UInt64)).toNat % size

/-- The lowest bits of a number, so many of them. -/
def bits : Nat → Nat → List Bool
  | 0, _ => []
  | d + 1, n => (n % 2 == 1) :: bits d (n / 2)

/-- The bits of the slot for a description; there are less than `1 <<< 14` slots. -/
def path (size : Nat) (description : List Nat) : List Bool :=
  bits 14 (slot size description)

/-- What is remembered for a description, if the slot at the end of the path has it. -/
def find? (description : List Nat) : List Bool → Slots → Option Nat
  | [], .taken other n => if other = description then some n else none
  | bit :: bits, .fork even odd => find? description bits (if bit then odd else even)
  | _, _ => none

/-- Remembers a description in the slot at the end of the path. -/
def put (description : List Nat) (n : Nat) : List Bool → Slots → Slots
  | [], _ => .taken description n
  | true :: bits, .fork even odd => .fork even (put description n bits odd)
  | false :: bits, .fork even odd => .fork (put description n bits even) odd
  | true :: bits, _ => .fork .vacant (put description n bits .vacant)
  | false :: bits, _ => .fork (put description n bits .vacant) .vacant

theorem find?_put (description : List Nat) (n : Nat) (path : List Bool) (s : Slots) :
    find? description path (put description n path s) = some n := by
  fun_induction put description n path s <;> simp_all [find?]

end Slots

end CorpusQuery.Pattern
