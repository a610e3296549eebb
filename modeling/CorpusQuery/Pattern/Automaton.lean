import CorpusQuery.Pattern.Branching
import CorpusQuery.Pattern.Node
import CorpusQuery.Pattern.Trie

/-!
# The automata of a pattern

A pattern becomes two automata: one reads a text forward and notes where groups start and end, the
other reads it backward. Both must stay within the allowance (`Node.isAffordable`).
-/

namespace CorpusQuery.Pattern

namespace Bill

/-- The account of a repetition: what has to be there stands as often in a row; after that a branch
stands before each part that may be there, or leads back. -/
def quantified (min : Nat) (max : Option Nat) (consumes : Bool) (body : Bill) : Bill :=
  match min, max with
  | 0, none =>
    if consumes then concat [.flat ⟨1, 8⟩, body] else concat [body, .flat ⟨3, 16⟩]
  | n, none => concat [body.repeated n, .flat ⟨1, 8⟩]
  | 0, some 0 => .states 1
  | 0, some 1 => concat [.flat ⟨1, 8⟩, body, .states 1]
  | n, some m =>
    let required := if n = 0 then .states 1 else body.repeated n
    if n = m then required
    else concat [required, .states 1, (concat [.flat ⟨1, 8⟩, body]).repeated (m - n)]

/-- The account of alternatives: a branch, and a state where they meet after the second. -/
def choice : List Bill → Bill
  | first :: second :: rest =>
    concat ([first, second, .flat ⟨2, 8⟩] ++ rest.map (append · (.flat ⟨0, 4⟩)))
  | bills => concat bills

end Bill

namespace Node

def bytes (cs : List Char) : List UInt8 :=
  cs.flatMap String.utf8EncodeChar

/-- The words of alternatives that are all literals, in the order in which they are read. -/
def words? (forward : Bool) (ns : List Node) : Option (List (List UInt8)) :=
  ns.mapM fun
    | .literal cs => some (if forward then bytes cs else (bytes cs).reverse)
    | _ => none

mutual

/-- The account of the states for a pattern. -/
def bill (forward : Bool) : Node → Bill
  | .empty | .look _ => .states 1
  | .literal cs => .states (bytes cs).length
  | .set _ s => s.bill forward
  | .repeated min max _ body =>
    .quantified min max (body.consumes == some true) (body.bill forward)
  | .capture body =>
    if forward then .concat [.states 1, body.bill forward, .states 1] else body.bill forward
  | .row parts => .concat (if forward then bills forward parts else (bills forward parts).reverse)
  | .choice parts =>
    match words? forward parts with
    | some ws => .flat ((Cost.mk 1 0).plus (Trie.ofWords ws).cost)
    | none => .choice (bills forward parts)

def bills (forward : Bool) : List Node → List Bill
  | [] => []
  | n :: ns => n.bill forward :: bills forward ns

end

/-- The account of a whole automaton. If the pattern may start anywhere, a loop over all bytes comes
first; the forward automaton notes where the match starts and ends. -/
def automaton (forward : Bool) (n : Node) : Bill :=
  let anchored := n.asksFor (if forward then .textStart else .textEnd) forward
  .concat [.flat (if anchored then ⟨1, 0⟩ else ⟨3, 16⟩), .states (if forward then 1 else 0),
    n.bill forward, .states (if forward then 2 else 1)]

/-- Whether both automata are allowed. -/
def isAffordable (n : Node) : Bool :=
  (n.automaton true).isAffordable && (n.automaton false).isAffordable

end Node

end CorpusQuery.Pattern
