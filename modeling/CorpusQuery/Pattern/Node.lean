import CorpusQuery.Pattern.Charset
import CorpusQuery.Pattern.Look

/-!
# Patterns as trees

What a pattern matches, without the way it is written. The trees are built by functions that
simplify as they go (`ofSet`, `quantified`, `ofRow`, `ofChoice`): a row holds no row and no two
literals side by side, a choice holds no choice, and alternatives that begin alike share their
beginning.
-/

namespace CorpusQuery.Pattern

inductive Node where
  | empty
  | literal (cs : List Char)
  /-- A character of a set; without `unicode` the set is one of bytes. -/
  | set (unicode : Bool) (s : Charset)
  | look (l : Look)
  /-- From `min` to `max` times, or any number of times from `min` on. -/
  | repeated (min : Nat) (max : Option Nat) (greedy : Bool) (body : Node)
  | capture (body : Node)
  | row (parts : List Node)
  | choice (parts : List Node)

namespace Node

/-! ## Equality -/

mutual

/-- Whether two patterns are alike. No two groups that capture are. -/
def same : Node → Node → Bool
  | .empty, .empty => true
  | .literal cs, .literal ds => cs == ds
  | .set u s, .set v t => u == v && s == t
  | .look l, .look m => l == m
  | .repeated min max greedy a, .repeated min' max' greedy' b =>
    min == min' && max == max' && greedy == greedy' && same a b
  | .row as, .row bs => sameAll as bs
  | .choice as, .choice bs => sameAll as bs
  | _, _ => false

def sameAll : List Node → List Node → Bool
  | [], [] => true
  | a :: as, b :: bs => same a b && sameAll as bs
  | _, _ => false

end

/-! ## The texts that match -/

mutual

/-- Whether only texts with a character match, if any text does; `none` if a part of the pattern
that counts matches nothing at all. -/
def consumes : Node → Option Bool
  | .empty => some false
  | .literal _ => some true
  | .set _ s => if s.ranges.isEmpty then none else some true
  | .look _ => some false
  | .repeated min _ _ body => body.consumes.map (· && 0 < min)
  | .capture body => body.consumes
  | .row parts => consumesSome parts
  | .choice parts => consumesEach parts

/-- Whether a part of a row consumes. -/
def consumesSome : List Node → Option Bool
  | [] => some false
  | n :: ns => return (← n.consumes) || (← consumesSome ns)

/-- Whether all alternatives consume. -/
def consumesEach : List Node → Option Bool
  | [] => some true
  | n :: ns => return (← n.consumes) && (← consumesEach ns)

end

mutual

/-- Whether no text with a character can match, for patterns that match something. -/
def isVoid : Node → Bool
  | .empty | .look _ => true
  | .literal _ | .set .. => false
  | .repeated _ max _ body => max.isSome && body.isVoid
  | .capture body => body.isVoid
  | .row parts => areVoid parts
  | .choice parts => areVoid parts

def areVoid : List Node → Bool
  | [] => true
  | n :: ns => n.isVoid && areVoid ns

end

mutual

/-- Whether the pattern asks for the place `l` before or after all characters: `atStart` tells at
which end. -/
def asksFor (l : Look) (atStart : Bool) : Node → Bool
  | .empty | .literal _ | .set .. => false
  | .look m => m == l
  | .repeated min _ _ body => 0 < min && body.asksFor l atStart
  | .capture body => body.asksFor l atStart
  | .row parts => if atStart then firstAsks l parts else lastAsks l parts
  | .choice parts => eachAsks l atStart parts

/-- The parts of a row count up to the first that is not void. -/
def firstAsks (l : Look) : List Node → Bool
  | [] => false
  | n :: ns => n.asksFor l true || (n.isVoid && firstAsks l ns)

/-- The parts of a row count from the last that is not void on. -/
def lastAsks (l : Look) : List Node → Bool
  | [] => false
  | n :: ns => lastAsks l ns || (areVoid ns && n.asksFor l false)

def eachAsks (l : Look) (atStart : Bool) : List Node → Bool
  | [] => true
  | n :: ns => n.asksFor l atStart && eachAsks l atStart ns

end

/-! ## Building -/

/-- A character of a set. Nothing matches an empty set; a set of one character is a literal. -/
def ofSet (unicode : Bool) (s : Charset) : Node :=
  if s.ranges.isEmpty then .set false .empty
  else
    match s.only? with
    | some c => .literal [c]
    | none => .set unicode s

/-- A repetition. What is void is not repeated more than once. -/
def quantified (min : Nat) (max : Option Nat) (greedy : Bool) (body : Node) : Node :=
  let (min, max) :=
    if body.isVoid then (Nat.min min 1, some (Nat.min (max.getD 1) 1)) else (min, max)
  if max = some 0 then .empty
  else if min = 1 ∧ max = some 1 then body
  else .repeated min max greedy body

/-- The parts in a row that a pattern is made of. -/
def parts : Node → List Node
  | .empty => []
  | .row ns => ns
  | n => [n]

/-- A part before the parts of a row; two literals side by side become one. -/
def prepend : Node → List Node → List Node
  | .literal cs, .literal ds :: ns => .literal (cs ++ ds) :: ns
  | n, ns => n :: ns

/-- These patterns one after the other. -/
def ofRow (ns : List Node) : Node :=
  match (ns.flatMap parts).foldr prepend [] with
  | [] => .empty
  | [n] => n
  | ns => .row ns

def alternatives : Node → List Node
  | .choice ns => ns
  | n => [n]

/-- The set that a literal of one character stands for. -/
def characterSet? : Node → Option Charset
  | .literal [c] => some (.singleton c)
  | _ => none

def set? : Node → Option Charset
  | .set _ s => some s
  | _ => none

/-- One of these patterns, which are no choices and do not begin alike. Characters make up a set,
and so do sets. -/
def ofAlternatives (ns : List Node) : Node :=
  match ns with
  | [] => .set false .empty
  | [n] => n
  | ns =>
    match ns.mapM characterSet? <|> ns.mapM set? with
    | some sets => ofSet true (sets.foldl .union .empty)
    | none => .choice ns

def row? : Node → Option (List Node)
  | .row ns => some ns
  | _ => none

/-- How many parts are alike from the start. -/
def commonLength : List Node → List Node → Nat
  | a :: as, b :: bs => if same a b then commonLength as bs + 1 else 0
  | _, _ => 0

/-- Two or more rows that begin alike as one row, if they do. -/
def shareStart? (ns : List Node) : Option Node := do
  match ← ns.mapM row? with
  | first :: second :: rows =>
    let n := (second :: rows).foldl (fun n r => min n (commonLength first r)) first.length
    guard (0 < n)
    let rests := (first :: second :: rows).map fun r => ofRow (r.drop n)
    return ofRow (first.take n ++ [ofAlternatives (rests.flatMap alternatives)])
  | _ => none

/-- One of these patterns. -/
def ofChoice (ns : List Node) : Node :=
  (shareStart? (ns.flatMap alternatives)).getD (ofAlternatives (ns.flatMap alternatives))

end Node

end CorpusQuery.Pattern
