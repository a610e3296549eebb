/-!
# Merging neighbours

One pass over a list from left to right merges each element into the one before it where a partial
rule allows, so that a merged element may take in the next one too. The pass can be continued: the
elements of a further list are merged onto a list that is left as it is but for its last element
(`Neighbours.mergeOnto`).
-/

namespace CorpusQuery.Neighbours

variable {α : Type} (rule : α → α → Option α)

/-- The pass over the elements after `a`. -/
def mergeFrom (a : α) : List α → List α
  | [] => [a]
  | b :: bs =>
    match rule a b with
    | some c => mergeFrom c bs
    | none => a :: mergeFrom b bs

def merge : List α → List α
  | [] => []
  | a :: as => mergeFrom rule a as

/-- The pass over the second list, starting from the last element of the first. -/
def mergeOnto : List α → List α → List α
  | [], bs => merge rule bs
  | [a], bs => mergeFrom rule a bs
  | a :: b :: as, bs => a :: mergeOnto (b :: as) bs

theorem mergeFrom_ne_nil (a : α) (bs : List α) : mergeFrom rule a bs ≠ [] := by
  fun_induction mergeFrom rule a bs <;> simp_all

theorem merge_eq_nil_iff {as : List α} : merge rule as = [] ↔ as = [] := by
  cases as <;> simp [merge, mergeFrom_ne_nil]

end CorpusQuery.Neighbours
