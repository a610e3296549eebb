/-!
# Hexadecimal numerals

Numbers in base sixteen, with digits in upper or lower case.
-/

namespace CorpusQuery.Hexadecimal

def digitValue? (c : Char) : Option Nat :=
  if '0' ≤ c ∧ c ≤ '9' then some (c.toNat - 48)
  else if 'a' ≤ c ∧ c ≤ 'f' then some (c.toNat - 87)
  else if 'A' ≤ c ∧ c ≤ 'F' then some (c.toNat - 55)
  else none

/-- The number that these digits stand for, if they are digits. -/
def value? (cs : List Char) : Option Nat :=
  (cs.mapM digitValue?).map (·.foldl (fun n d => n * 16 + d) 0)

end CorpusQuery.Hexadecimal
