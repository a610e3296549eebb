import CorpusQuery.Plan.Basic

/-!
# Token predicates

A predicate joins positive atoms, negated atoms and further predicates by a combinator, and may be
negated as a whole. An empty predicate holds of every token.
-/

namespace CorpusQuery

structure Predicate where
  field : String
  combinator : Combinator
  negated : Bool := false
  positive : List Plan := []
  negative : List Plan := []
  children : List Predicate := []

namespace Predicate

/-- The predicate that asks for one atom. -/
def ofAtom (field : String) (p : Plan) : Predicate where
  field := field
  combinator := .and
  positive := [p]

def addPositive (w : Predicate) (p : Plan) : Predicate :=
  { w with positive := w.positive ++ [p] }

def addNegative (w : Predicate) (p : Plan) : Predicate :=
  { w with negative := w.negative ++ [p] }

def addChild (w child : Predicate) : Predicate :=
  { w with children := w.children ++ [child] }

def setNegated (w : Predicate) (b : Bool) : Predicate :=
  { w with negated := b }

def negate (w : Predicate) : Predicate :=
  { w with negated := !w.negated }

/-- The predicate in the form that De Morgan's law gives it: not all of these is any of their
negations. -/
def dual (w : Predicate) : Predicate where
  field := w.field
  combinator := w.combinator.dual
  negated := !w.negated
  positive := w.negative
  negative := w.positive
  children := w.children.map negate

/-- Whether there is neither atom nor child. -/
def isEmpty (w : Predicate) : Bool :=
  w.positive.isEmpty && w.negative.isEmpty && w.children.isEmpty

/-- Whether there is one atom and no child. -/
def isSingle (w : Predicate) : Bool :=
  w.children.isEmpty && w.positive.length + w.negative.length == 1

end Predicate

end CorpusQuery
