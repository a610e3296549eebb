/-!
# Combinators

A token predicate joins its atoms by `and` or by `or`. De Morgan's law exchanges the two, and
exchanging them twice changes nothing (`Combinator.dual_dual`).
-/

namespace CorpusQuery

/-- How the atoms of a token predicate are joined. -/
inductive Combinator where
  | and
  | or
  deriving DecidableEq

namespace Combinator

/-- The other combinator, as in De Morgan's law. -/
def dual : Combinator → Combinator
  | and => or
  | or => and

@[simp] theorem dual_dual (c : Combinator) : c.dual.dual = c := by cases c <;> rfl

def text : Combinator → String
  | and => "AND"
  | or => "OR"

end Combinator

end CorpusQuery
