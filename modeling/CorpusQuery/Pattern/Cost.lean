/-!
# What an automaton takes

The size of an automaton is counted in bytes: 32 for a state, and more for the transitions or
branches that some states list. An account (`Bill`) adds up the parts of an automaton in the order
in which they are numbered. Some parts cost the same wherever they stand, so that a repetition of
them is a product; others depend on the number of their first state. An account is settled only as
far as the allowance goes (`Bill.settle`).
-/

namespace CorpusQuery.Pattern

structure Cost where
  states : Nat
  /-- The bytes for transitions and branches. -/
  links : Nat
  deriving DecidableEq

namespace Cost

def nothing : Cost := ⟨0, 0⟩

def plus (a b : Cost) : Cost := ⟨a.states + b.states, a.links + b.links⟩

def scale (n : Nat) (a : Cost) : Cost := ⟨n * a.states, n * a.links⟩

def bytes (a : Cost) : Nat := 32 * a.states + a.links

/-- The bytes that an automaton may take. -/
def allowance : Nat := 10 * 1024 * 1024

/-- The cost, if it is allowed. -/
def check (a : Cost) : Option Cost :=
  if a.bytes ≤ allowance then some a else none

end Cost

/-- An account of parts in a row. -/
inductive Bill where
  /-- A part that costs the same everywhere. -/
  | flat (c : Cost)
  /-- A part whose cost depends on the number of its first state. -/
  | placed (cost : Nat → Cost)
  | both (a b : Bill)
  | times (n : Nat) (a : Bill)

namespace Bill

/-- So many states without links. -/
def states (n : Nat) : Bill := .flat ⟨n, 0⟩

/-- Two accounts in a row. -/
def append : Bill → Bill → Bill
  | .flat a, .flat b => .flat (a.plus b)
  | a, b => .both a b

def concat (bs : List Bill) : Bill :=
  bs.foldr append (.flat .nothing)

/-- An account so many times in a row. -/
def repeated (n : Nat) : Bill → Bill
  | .flat a => .flat (a.scale n)
  | a => .times n a

/-- A step taken so many times, until it fails. -/
def iterate (step : Cost → Option Cost) : Nat → Cost → Option Cost
  | 0, c => some c
  | n + 1, c => match step c with
    | none => none
    | some c => iterate step n c

/-- The cost of all parts after what is there already, if it stays within the allowance. -/
def settle : Bill → Cost → Option Cost
  | .flat a, c => (c.plus a).check
  | .placed cost, c => (c.plus (cost c.states)).check
  | .both a b, c => (a.settle c).bind b.settle
  | .times n a, c => iterate a.settle n c

/-- Whether the whole automaton is allowed. -/
def isAffordable (b : Bill) : Bool :=
  (b.settle .nothing).isSome

end Bill

end CorpusQuery.Pattern
