import CorpusQuery.Proofs.Language
import CorpusQuery.Proofs.Merging

/-!
# Counting merged occurrences

An occurrence allows the numbers between its bounds, and none at all if it is optional. Only an
optional occurrence that starts past one has a gap in what it allows, and the rule merges no such
occurrence. Without a gap, what two occurrences allow together is every number from the sum of the
fewest to the sum of the greatest, which are the bounds that the rule computes; where the upper one
is out of range, it stops at the largest count (`Occurrence.merge_allows`). So merging neither
widens nor narrows what may stand, even where the sum of two finite bounds is taken for none.
-/

namespace CorpusQuery.Occurrence

/-- The part may stand so many times. -/
def Allows (o : Occurrence) (n : ℕ) : Prop :=
  o.least ≤ n ∧ n ≤ o.most ∨ n = 0 ∧ o.optional = true

/-- Every occurrence is made from two bounds and a flag: no builder is left out by speaking of all
of them. -/
theorem exists_ofRange (o : Occurrence) :
    ∃ r, ofRange o.leastWord o.mostWord = .ok r ∧ o = r.withOptional o.optional := by
  have h1 := o.one_le_least
  have hle := o.least_le_most
  have hlo : o.leastWord.toNat = o.least := UInt64.toNat_ofNatLT ..
  have hhi : o.mostWord.toNat = o.most := UInt64.toNat_ofNatLT ..
  have hr : o.leastWord ≤ o.mostWord ∧ 1 ≤ o.mostWord := by
    simp only [UInt64.le_iff_toNat_le, hlo, hhi, UInt64.toNat_one]
    omega
  refine ⟨_, dif_pos hr, ?_⟩
  obtain ⟨least, most, optional, _, _, _⟩ := o
  simp only [withOptional, hlo, hhi, mk.injEq, and_true]
  omega

theorem mem_counts_iff (o : Occurrence) {n : ℕ} (hn : n ≤ unbounded) :
    n ∈ o.counts ↔ o.Allows n := by
  have hm := o.most_le_unbounded
  unfold counts Allows
  split_ifs with ho
  · simp only [Set.mem_union, mem_between, Set.mem_singleton_iff, ho, and_true]
    omega
  · simp only [mem_between, ho, and_false, or_false, Bool.false_eq_true]
    omega

/-- Without a gap the counts are those between the fewest and the greatest. -/
theorem Gapless.allows_iff {o : Occurrence} (h : o.Gapless) (n : ℕ) :
    o.Allows n ↔ o.fewest ≤ n ∧ n ≤ o.most := by
  have h1 := o.one_le_least
  have hle := o.least_le_most
  unfold Allows fewest
  cases ho : o.optional with
  | false => simp
  | true =>
    have hl : o.least = 1 := h ho
    simp only [if_true, and_true]
    omega

/-- A merged occurrence has bounds in order, and among the numbers in range it allows exactly the
sums of one that the first allows and one that the second does. -/
theorem merge_allows {a b c : Occurrence} (h : a.merge b = some c) :
    (1 ≤ c.least ∧ c.least ≤ c.most) ∧
      ∀ n ≤ unbounded, c.Allows n ↔ ∃ i j, a.Allows i ∧ b.Allows j ∧ n = i + j := by
  obtain ⟨ha, hb, hc, hf, hm⟩ := merge_eq_some h
  refine ⟨⟨c.one_le_least, c.least_le_most⟩, fun n hn => ?_⟩
  have hfa : a.fewest ≤ a.most := a.fewest_le_least.trans a.least_le_most
  have hfb : b.fewest ≤ b.most := b.fewest_le_least.trans b.least_le_most
  simp only [ha.allows_iff, hb.allows_iff, hc.allows_iff, hf, hm, mostTogether]
  constructor
  · rintro ⟨hlo, hhi⟩
    -- as many as may be on the right, the rest on the left
    refine ⟨n - min b.most (n - a.fewest), min b.most (n - a.fewest), ⟨?_, ?_⟩, ⟨?_, ?_⟩, ?_⟩ <;>
      omega
  · rintro ⟨i, j, hi, hj, rfl⟩
    omega

/-- One or more, or else nothing. -/
def anyNumber : Occurrence :=
  { atMostOnce with
    most := unbounded
    least_le_most := by decide
    most_le_unbounded := le_rfl }

theorem merge_allows_anyNumber :
    ∃ c, once.merge anyNumber = some c ∧ (1 ≤ c.least ∧ c.least ≤ c.most) ∧
      ∀ n ≤ unbounded, c.Allows n ↔ ∃ i j, once.Allows i ∧ anyNumber.Allows j ∧ n = i + j :=
  ⟨_, rfl, merge_allows rfl⟩

end CorpusQuery.Occurrence
