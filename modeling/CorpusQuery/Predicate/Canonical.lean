import CorpusQuery.Predicate.Basic

/-!
# The canonical form of a predicate

A canonical predicate has no children, never consists of negated atoms alone, and mixes positive and
negated atoms only under `and`. A predicate is brought into this form by absorbing its children one
by one (`Predicate.canonical`): a child's atoms are taken over where associativity or De Morgan's
law allows it, and otherwise the child becomes an atom itself.
-/

namespace CorpusQuery

namespace Predicate

/-- The atoms of a canonical predicate. -/
inductive Shape where
  /-- No atom: all tokens. -/
  | empty
  | positive (atoms : List Plan)
  | mixed (positive negative : List Plan)
  deriving DecidableEq

/-- A predicate without children. -/
structure Canonical where
  field : String
  combinator : Combinator
  negated : Bool
  shape : Shape
  deriving DecidableEq

namespace Canonical

/-- The canonical predicate with these atoms. Negated atoms alone change sides, and a mixture under
`or` is the negation of one under `and`. -/
def ofAtoms (field : String) (c : Combinator) (negated : Bool) (pos neg : List Plan) : Canonical :=
  match pos, neg, c with
  | [], [], c => ⟨field, c, negated, .empty⟩
  | p :: pos, [], c => ⟨field, c, negated, .positive (p :: pos)⟩
  | [], n :: neg, c => ⟨field, c.dual, !negated, .positive (n :: neg)⟩
  | p :: pos, n :: neg, .and => ⟨field, .and, negated, .mixed (p :: pos) (n :: neg)⟩
  | p :: pos, n :: neg, .or => ⟨field, .and, !negated, .mixed (n :: neg) (p :: pos)⟩

def positive (w : Canonical) : List Plan :=
  match w.shape with
  | .empty => []
  | .positive ps | .mixed ps _ => ps

def negative (w : Canonical) : List Plan :=
  match w.shape with
  | .empty | .positive _ => []
  | .mixed _ ns => ns

def isEmpty (w : Canonical) : Bool :=
  match w.shape with
  | .empty => true
  | _ => false

def isSingle (w : Canonical) : Bool :=
  match w.shape with
  | .positive [_] => true
  | _ => false

/-- The plan of the atoms, without the negation of the whole. -/
def core (w : Canonical) : Plan :=
  match w.shape with
  | .empty => .everything w.field
  | .positive ps => .combine w.combinator ps
  | .mixed ps ns => .without (.combine .and ps) (.combine .or ns)

/-- The plan of the predicate; its negation is what is left of all tokens. -/
def toPlan (w : Canonical) : Plan :=
  if w.negated then .without (.everything w.field) w.core else w.core

def toPredicate (w : Canonical) : Predicate where
  field := w.field
  combinator := w.combinator
  negated := w.negated
  positive := w.positive
  negative := w.negative

end Canonical

/-- The atoms gathered so far; `vacuous` tells that a child that holds of no token was left out of a
disjunction. -/
structure Gathered where
  positive : List Plan
  negative : List Plan
  vacuous : Bool := false

namespace Gathered

/-- Takes atoms over, on the sides where they stand or, under negation, on the other ones. -/
def take (a : Gathered) (negated : Bool) (pos neg : List Plan) : Gathered :=
  if negated then
    { a with positive := a.positive ++ neg, negative := a.negative ++ pos }
  else
    { a with positive := a.positive ++ pos, negative := a.negative ++ neg }

/-- Absorbs a child of a predicate whose combinator is `c`. -/
def absorb (c : Combinator) (a : Gathered) (k : Canonical) : Gathered :=
  if k.isEmpty && c == .or && k.negated then
    { a with vacuous := true }
  else if k.isEmpty && c == .and && !k.negated then
    a
  else if k.isSingle || (!k.isEmpty && (k.combinator != c) == k.negated) then
    a.take k.negated k.positive k.negative
  else
    a.take k.negated [k.core] []

/-- The canonical predicate of all that was gathered. If only children that hold of no token were
left out, the predicate must not become empty, as that would hold of all. -/
def finish (a : Gathered) (field : String) (c : Combinator) (negated : Bool) : Canonical :=
  if a.vacuous && a.positive.isEmpty && a.negative.isEmpty then
    .ofAtoms field c negated [] [.everything field]
  else
    .ofAtoms field c negated a.positive a.negative

end Gathered

mutual

def canonical : Predicate → Canonical
  | ⟨field, c, negated, pos, neg, kids⟩ =>
    ((canonicals kids).foldl (Gathered.absorb c) ⟨pos, neg, false⟩).finish field c negated

def canonicals : List Predicate → List Canonical
  | [] => []
  | k :: ks => k.canonical :: canonicals ks

end

def toPlan (w : Predicate) : Plan :=
  w.canonical.toPlan

end Predicate

end CorpusQuery
