import CorpusQuery.Decimal
import CorpusQuery.Pattern.Charset

/-!
# Tables of all characters

A table that gives every character a label is written as lines of runs, from the first character
on: a label, and the number of characters in a row that have it if it is not one. So `Nd10 Po2` says
that ten characters have the label `Nd`, and the two after them `Po`.
-/

namespace CorpusQuery.Pattern.Runs

/-- The label and the length of a run. -/
def ofWord (w : List Char) : String × Nat :=
  let count := w.dropWhile (!·.isDigit)
  (String.ofList (w.takeWhile (!·.isDigit)), if count.isEmpty then 1 else Decimal.value count)

def ofLines (lines : List String) : List (String × Nat) :=
  (lines.flatMap (Segments.between ' ' ·.toList)).map ofWord

/-- The ranges of the runs with a label that is wanted, where the first run starts at `n`. -/
def select (wanted : String → Bool) (n : Nat) : List (String × Nat) → List (Nat × Nat)
  | [] => []
  | (label, count) :: rs =>
    if wanted label then (n, n + count - 1) :: select wanted (n + count) rs
    else select wanted (n + count) rs

/-- The characters with a label that is wanted. -/
def members (runs : List (String × Nat)) (wanted : String → Bool) : Charset :=
  .ofRanges (select wanted 0 runs)

end CorpusQuery.Pattern.Runs
