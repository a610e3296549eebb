import CorpusQuery.Pattern.Cost

/-!
# Tries of words

Words of bytes that are alternatives to each other share their beginnings in a trie. As an earlier
word is preferred to a later one, a node where a word ends is closed in part: the branches before
that end stay as they are, and words that come later start branches of their own after it.
-/

namespace CorpusQuery.Pattern

/-- A node: the rows of branches that are closed, one before each end of a word, and the open row of
branches. -/
inductive Trie where
  | node (closed : List (List (UInt8 × Trie))) (row : List (UInt8 × Trie))

namespace Trie

def empty : Trie := .node [] []

/-- Marks the end of a word. A second end without a branch between makes no difference. -/
def finish : Trie → Trie
  | .node closed row =>
    if row.isEmpty && !closed.isEmpty && closed.all (·.isEmpty) then .node closed row
    else .node (closed ++ [row]) []

/-- Adds a word after those that are there. -/
def insert : List UInt8 → Trie → Trie
  | [], t => t.finish
  | b :: bs, .node closed row =>
    if row.any (·.1 == b) then
      .node closed (row.map fun (c, t) => if c == b then (c, insert bs t) else (c, t))
    else
      .node closed (row ++ [(b, insert bs empty)])

def ofWords (ws : List (List UInt8)) : Trie :=
  ws.foldl (fun t w => insert w t) empty

/-- Whether no branch leads on. -/
def isLeaf : Trie → Bool
  | .node closed row => closed.all (·.isEmpty) && row.isEmpty

/-- What the state for one row of branches costs; a row of one branch lists no transitions. -/
def rowCost (n : Nat) : Cost :=
  match n with
  | 0 => ⟨0, 0⟩
  | 1 => ⟨1, 4⟩
  | n => ⟨1, 8 * n + 4⟩

mutual

/-- The states for a node and all below it: one for each row, and one that lists the rows and the
ends between them. -/
def cost : Trie → Cost
  | .node closed row =>
    ((closedCost closed).plus ((rowCost row.length).plus (rowsCost row))).plus
      ⟨1, 4 * closed.length⟩

def closedCost : List (List (UInt8 × Trie)) → Cost
  | [] => .nothing
  | row :: rows => ((rowCost row.length).plus (rowsCost row)).plus (closedCost rows)

/-- The states below a row; a leaf has none. -/
def rowsCost : List (UInt8 × Trie) → Cost
  | [] => .nothing
  | (_, t) :: row => (if t.isLeaf then .nothing else t.cost).plus (rowsCost row)

end

end Trie

end CorpusQuery.Pattern
