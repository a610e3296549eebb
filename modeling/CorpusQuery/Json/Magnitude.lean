/-!
# How large a numeral may be

A numeral with a fraction or an exponent is read as a number with 53 significant bits, and one that
goes beyond all such numbers is refused. The rule works on whole numbers only: the significand is
made of the leading digits, as long as they fit a word of 64 bits, and is scaled by a power of ten;
the significand, the power and their product are each rounded (`isHuge`).
-/

namespace CorpusQuery.Json.Magnitude

/-- The nearest number with at most 53 significant bits, of two the one with an even significand. -/
def round (n : Nat) : Nat :=
  let shift := n.log2 + 1 - 53
  let q := n >>> shift
  let r := n - q <<< shift
  if 1 <<< shift < 2 * r ∨ (1 <<< shift = 2 * r ∧ q % 2 = 1) then (q + 1) <<< shift else q <<< shift

/-- Takes digits into the significand as long as it fits a word; the second number counts the digits
that were taken, the third those that were left. -/
def accumulate (significand : Nat) : List Char → Nat × Nat × Nat
  | [] => (significand, 0, 0)
  | c :: cs =>
    let next := 10 * significand + (c.toNat - 48)
    if next < UInt64.size then
      let (s, taken, left) := accumulate next cs
      (s, taken + 1, left)
    else
      (significand, 0, cs.length + 1)

/-- Whether a numeral goes beyond every number with 53 significant bits and an exponent in range.
Digits before the point that are left out still count for the scale. -/
def isHuge (whole fraction : List Char) (exponent : Int) : Bool :=
  let (s, _, left) := accumulate 0 whole
  let (s, taken, _) := accumulate s fraction
  let scale : Int := left - taken + exponent
  s != 0 && (308 < scale ||
    (0 ≤ scale && 1 <<< 1024 ≤ round (round s * round (Nat.pow 10 scale.toNat))))

end CorpusQuery.Json.Magnitude
