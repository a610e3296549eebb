import CorpusQuery.Combinator
import CorpusQuery.Comparison
import CorpusQuery.Occurrence

/-!
# Plans

A plan is a tree of span queries for an engine that matches them against annotated text; here it is
only built, measured and written. Its leaves match one token by an annotation, which is named by a
field of the index and a layer of that field. Equality of plans is decidable (`Plan.same_iff`).
-/

namespace CorpusQuery

mutual

inductive Plan where
  /-- Tokens with this very value. -/
  | term (field layer value : String)
  /-- Tokens with any value in the layer. -/
  | annotated (field layer : String)
  | wildcard (field layer value : String)
  | regexp (field layer pattern : String)
  /-- Tokens with one of the values that a variable stands for. -/
  | expansion (field layer name : String) (values : List String)
  /-- Tokens whose value is a number that stands in the relation to the bound. -/
  | compare (field layer : String) (relation : Comparison) (bound : Int64)
  /-- Tokens at the positions from `first` to `last`, both included. -/
  | position (field : String) (first last : UInt64)
  /-- All tokens. -/
  | everything (field : String)
  | allOf (clauses : List Plan)
  | anyOf (clauses : List Plan)
  /-- Spans of `base` that `exclude` does not match. -/
  | without (base exclude : Plan)
  | sequence (items : List Plan.Item) (ignore : Option Plan.Ignore)
  | recurrence (plan : Plan) (least most : UInt64) (ignore : Option Plan.Ignore)
  /-- The empty span before each match. -/
  | startOf (plan : Plan)
  /-- The empty span after each match. -/
  | endOf (plan : Plan)

/-- An element of a sequence, which may be optional. -/
structure Plan.Item where
  plan : Plan
  optional : Bool

/-- What may be skipped between the elements of a sequence or a recurrence, and how much of it in a
row. -/
structure Plan.Ignore where
  plan : Plan
  maxSkip : UInt64

end

namespace Plan

/-! ## Construction -/

/-- A range of positions, which must not end before it starts. -/
def ofPositions (field : String) (first last : UInt64) : Except Error Plan :=
  if last < first then .error (.illegalPosition first last) else .ok (.position field first last)

/-- The clauses under a combinator; a single clause stands alone. -/
def combine (c : Combinator) : List Plan → Plan
  | [p] => p
  | ps => match c with
    | .and => .allOf ps
    | .or => .anyOf ps

/-- A plan for the item: an optional one can only be said in a sequence of its own. -/
def Item.toPlan (ignore : Option Ignore) (i : Item) : Plan :=
  if i.optional then .sequence [i] ignore else i.plan

/-- The item repeated as an occurrence says. It is optional if either of the two is; repeated, an
optional item becomes a plan first, so that each turn may be empty. -/
def Item.repeated (ignore : Option Ignore) (o : Occurrence) (i : Item) : Item where
  plan := if 1 < o.most then .recurrence (i.toPlan ignore) o.leastWord o.mostWord ignore else i.plan
  optional := o.optional || i.optional

/-! ## Measures -/

/-- Whether the plan holds no other plan. -/
def isLeaf : Plan → Bool
  | .term .. | .annotated .. | .wildcard .. | .regexp .. | .expansion .. | .compare ..
  | .position .. | .everything .. => true
  | .allOf .. | .anyOf .. | .without .. | .sequence .. | .recurrence .. | .startOf ..
  | .endOf .. => false

mutual

/-- The number of nodes, without those of what is ignored. -/
def size : Plan → Nat
  | .term .. | .annotated .. | .wildcard .. | .regexp .. | .expansion .. | .compare ..
  | .position .. | .everything .. => 1
  | .allOf ps | .anyOf ps => 1 + sizes ps
  | .without p q => 1 + (p.size + q.size)
  | .sequence is _ => 1 + itemSizes is
  | .recurrence p _ _ _ | .startOf p | .endOf p => 1 + p.size

def sizes : List Plan → Nat
  | [] => 0
  | p :: ps => p.size + sizes ps

def itemSizes : List Item → Nat
  | [] => 0
  | ⟨p, _⟩ :: is => p.size + itemSizes is

end

/-! ## Equality -/

mutual

def same : Plan → Plan → Bool
  | .term f l v, .term f' l' v' | .wildcard f l v, .wildcard f' l' v'
  | .regexp f l v, .regexp f' l' v' => f == f' && l == l' && v == v'
  | .annotated f l, .annotated f' l' => f == f' && l == l'
  | .expansion f l n vs, .expansion f' l' n' vs' => f == f' && l == l' && n == n' && vs == vs'
  | .compare f l r b, .compare f' l' r' b' => f == f' && l == l' && r == r' && b == b'
  | .position f a b, .position f' a' b' => f == f' && a == a' && b == b'
  | .everything f, .everything f' => f == f'
  | .allOf ps, .allOf qs | .anyOf ps, .anyOf qs => sameAll ps qs
  | .without p q, .without p' q' => p.same p' && q.same q'
  | .sequence is g, .sequence js h => sameItems is js && sameIgnore g h
  | .recurrence p a b g, .recurrence q a' b' h =>
    p.same q && a == a' && b == b' && sameIgnore g h
  | .startOf p, .startOf q | .endOf p, .endOf q => p.same q
  | _, _ => false

def sameAll : List Plan → List Plan → Bool
  | [], [] => true
  | p :: ps, q :: qs => p.same q && sameAll ps qs
  | _, _ => false

def sameItems : List Item → List Item → Bool
  | [], [] => true
  | ⟨p, b⟩ :: is, ⟨q, c⟩ :: js => p.same q && b == c && sameItems is js
  | _, _ => false

def sameIgnore : Option Ignore → Option Ignore → Bool
  | none, none => true
  | some ⟨p, n⟩, some ⟨q, m⟩ => p.same q && n == m
  | _, _ => false

end

mutual

theorem same_iff : ∀ p q : Plan, p.same q = true ↔ p = q
  | .term .., q | .wildcard .., q | .regexp .., q | .annotated .., q | .expansion .., q
  | .compare .., q | .position .., q | .everything .., q => by cases q <;> simp [same, and_assoc]
  | .allOf ps, q => by cases q <;> simp [same, sameAll_iff ps]
  | .anyOf ps, q => by cases q <;> simp [same, sameAll_iff ps]
  | .without p p', q => by cases q <;> simp [same, same_iff p, same_iff p']
  | .sequence is g, q => by cases q <;> simp [same, sameItems_iff is, sameIgnore_iff g]
  | .recurrence p _ _ g, q => by
    cases q <;> simp [same, same_iff p, sameIgnore_iff g, and_assoc]
  | .startOf p, q => by cases q <;> simp [same, same_iff p]
  | .endOf p, q => by cases q <;> simp [same, same_iff p]

theorem sameAll_iff : ∀ ps qs : List Plan, sameAll ps qs = true ↔ ps = qs
  | [], qs => by cases qs <;> simp [sameAll]
  | p :: ps, qs => by cases qs <;> simp [sameAll, same_iff p, sameAll_iff ps]

theorem sameItems_iff : ∀ is js : List Item, sameItems is js = true ↔ is = js
  | [], js => by cases js <;> simp [sameItems]
  | ⟨p, b⟩ :: is, js => by
    cases js with
    | nil => simp [sameItems]
    | cons j js => cases j; simp [sameItems, same_iff p, sameItems_iff is, and_assoc]

theorem sameIgnore_iff : ∀ g h : Option Ignore, sameIgnore g h = true ↔ g = h
  | none, h => by cases h <;> simp [sameIgnore]
  | some ⟨p, n⟩, h => by
    cases h with
    | none => simp [sameIgnore]
    | some h => cases h; simp [sameIgnore, same_iff p]

end

instance : DecidableEq Plan := fun p q => decidable_of_iff _ (same_iff p q)

instance : DecidableEq Item := fun i j =>
  decidable_of_iff (i.plan = j.plan ∧ i.optional = j.optional) (by cases i; cases j; simp)

instance : DecidableEq Ignore := fun g h =>
  decidable_of_iff (g.plan = h.plan ∧ g.maxSkip = h.maxSkip) (by cases g; cases h; simp)

end Plan

end CorpusQuery
