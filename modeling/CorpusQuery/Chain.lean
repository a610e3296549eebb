import CorpusQuery.Sentence.Basic

/-!
# Chains

A chain is how a query is read from left to right: a sentence with a pending occurrence, which the
rest of the chain follows or is an alternative to. Assembled into one sentence, a chain leans to the
right, and an alternation within it is kept in one piece by what follows it.
-/

namespace CorpusQuery

/-- What the rest of a chain is to its first sentence. -/
inductive Join where
  | sequence
  | alternation
  deriving DecidableEq

structure Chain where
  first : Sentence
  /-- The occurrence of the first sentence, on top of its own. -/
  pending : Occurrence := .once
  rest : Option (Join × Chain) := none

namespace Chain

def ofSentence (s : Sentence) : Chain where
  first := s

def setPending (c : Chain) (lo hi : UInt64) : Except Error Chain :=
  (Occurrence.ofRange lo hi).map fun o => { c with pending := o }

def setOptional (c : Chain) (b : Bool) : Chain :=
  { c with pending := c.pending.withOptional b }

def withPending (c : Chain) (o : Occurrence) : Chain :=
  { c with pending := o }

/-- Puts another rest in the place of the one there is. -/
def withRest (c : Chain) (j : Join) (d : Chain) : Chain :=
  { c with rest := some (j, d) }

def join (c : Chain) : Option Join :=
  c.rest.map (·.1)

/-- The sentence of the whole chain. The rest is assembled first; an alternation then takes the
first sentence in before it, so that the alternatives keep their order. -/
def assemble : Chain → Except Error Sentence
  | ⟨first, pending, none⟩ => .ok (first.quantify pending)
  | ⟨first, pending, some (.sequence, c)⟩ => do
    let s := first.quantify pending
    let t ← c.assemble
    (if s.isSingle then s else s.grouped).append t
  | ⟨first, pending, some (.alternation, c)⟩ => do
    let t ← c.assemble
    t.addFirstOption (first.quantify pending)

end Chain

end CorpusQuery
