import CorpusQuery.Pattern.Cost
import CorpusQuery.Pattern.Slots
import CorpusQuery.Pattern.Utf8

/-!
# Sets of characters in an automaton

The bytes of a character lead through states of their own. Where two states would be the same, one
is enough, as long as the first is remembered. What is remembered depends on the numbers of the
states, so that the cost of a set depends on where it stands in the automaton.
-/

namespace CorpusQuery.Pattern

/-- The states made so far, for one set. -/
structure Branching where
  /-- The number of the next state. -/
  next : Nat
  links : Nat := 0
  slots : Slots := .vacant

namespace Branching

/-- The number of the state with a description, which is made unless it is remembered. -/
def state (size links : Nat) (description : List Nat) (b : Branching) : Nat × Branching :=
  let path := Slots.path size description
  match b.slots.find? description path with
  | some n => (n, b)
  | none => (b.next, ⟨b.next + 1, b.links + links, b.slots.put description b.next path⟩)

/-! ## Forward -/

mutual

/-- The state from which the ways of a tree lead to `target`; those further on come before it. -/
def place (target : Nat) : ByteTree → Branching → Nat × Branching
  | .node [], b => (target, b)
  | .node (w :: ways), b =>
    let (description, b) := placeWays target (w :: ways) b
    b.state 10000 (8 * (ways.length + 1)) description

/-- The description of a state with these ways: the bounds of each, and the state it leads to. -/
def placeWays (target : Nat) : List (ByteRange × ByteTree) → Branching → List Nat × Branching
  | [], b => ([], b)
  | (r, t) :: ways, b =>
    let (n, b) := place target t b
    let (description, b) := placeWays target ways b
    (r.1 :: r.2 :: n :: description, b)

end

/-- What the states cost if the first has the number `n`; it is the one where all ways end. -/
def forwardCost (t : ByteTree) (n : Nat) : Cost :=
  let (_, b) := place n t { next := n + 1 }
  ⟨b.next - n, b.links⟩

/-! ## Backward -/

/-- The states for one sequence, from its first range on, which is the last on the way. -/
def placeBack (target : Nat) (seq : List ByteRange) (b : Branching) : Branching :=
  (seq.foldl (fun ((n, b) : Nat × Branching) r => b.state 1000 0 [n, r.1, r.2]) (target, b)).2

/-- What the states cost if the first has the number `n`; it branches to all sequences, and all ways
end in the next one. -/
def backwardCost (seqs : List (List ByteRange)) (n : Nat) : Cost :=
  let b := seqs.foldl (fun b seq => placeBack (n + 1) seq b) { next := n + 2 }
  ⟨b.next - n, 4 * seqs.length⟩

end Branching

/-- The account of a set. Sets within the first 128 characters need one state for all ranges. -/
def Charset.bill (forward : Bool) (s : Charset) : Bill :=
  if s.isAscii then .flat ⟨2, 8 * s.ranges.length⟩
  else if forward then .placed (Branching.forwardCost (.ofSequences s.sequences))
  else .placed (Branching.backwardCost s.sequences)

end CorpusQuery.Pattern
