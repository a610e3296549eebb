import CorpusQuery.Proofs.Counting

/-!
# Gaps that the neighbour fills

What two occurrences allow together is made of up to four runs of numbers: those of both in a row,
those of either alone if the other may be missing, and zero if both may (`Occurrence.sum_iff`). One
occurrence can say the same if these runs leave no gap. The rule of `Occurrence.merge` looks at the
least counts and the flags alone, so it gives up as soon as an optional occurrence starts past one,
even where the other reaches far enough to fill the gap (`Occurrence.Bridged`). Apart from these
pairs it gives up only where no occurrence would do (`Occurrence.merge_eq_none_iff`).
-/

namespace CorpusQuery.Occurrence

variable {a b c : Occurrence}

/-- Among the numbers in range `c` allows exactly the sums of one that `a` allows and one that `b`
does. -/
def Totals (c a b : Occurrence) : Prop :=
  ∀ n ≤ unbounded, c.Allows n ↔ ∃ i j, a.Allows i ∧ b.Allows j ∧ n = i + j

/-- The numbers that two occurrences allow together leave no gap above zero: the runs of either
alone meet each other, and one of them meets the run of both, unless that is out of range. -/
def Bridged (a b : Occurrence) : Prop :=
  (a.optional = true → b.optional = true → a.least ≤ b.most + 1 ∧ b.least ≤ a.most + 1) ∧
    (a.least + b.least ≤ unbounded →
      b.optional = true ∧ a.least + b.least ≤ a.most + 1 ∨
        a.optional = true ∧ a.least + b.least ≤ b.most + 1)

/-! ## The runs of a sum -/

theorem sum_iff (n : ℕ) : (∃ i j, a.Allows i ∧ b.Allows j ∧ n = i + j) ↔
    a.least + b.least ≤ n ∧ n ≤ a.most + b.most ∨
      b.optional = true ∧ a.least ≤ n ∧ n ≤ a.most ∨
      a.optional = true ∧ b.least ≤ n ∧ n ≤ b.most ∨
      (a.optional = true ∧ b.optional = true) ∧ n = 0 := by
  have ha := a.least_le_most
  have hb := b.least_le_most
  constructor
  · rintro ⟨i, j, hi | ⟨rfl, hi⟩, hj | ⟨rfl, hj⟩, rfl⟩
    · left
      omega
    · exact .inr (.inl ⟨hj, by omega⟩)
    · exact .inr (.inr (.inl ⟨hi, by omega⟩))
    · exact .inr (.inr (.inr ⟨⟨hi, hj⟩, rfl⟩))
  · rintro (h | ⟨ho, h⟩ | ⟨ho, h⟩ | ⟨⟨ho, ho'⟩, rfl⟩)
    · -- as many as may be on the left, the rest on the right
      refine ⟨min a.most (n - b.least), n - min a.most (n - b.least), .inl ?_, .inl ?_, ?_⟩ <;>
        omega
    · exact ⟨n, 0, .inl h, .inr ⟨rfl, ho⟩, rfl⟩
    · exact ⟨0, n, .inr ⟨rfl, ho⟩, .inl h, by omega⟩
    · exact ⟨0, 0, .inr ⟨rfl, ho⟩, .inr ⟨rfl, ho'⟩, rfl⟩

/-- Above zero an occurrence allows all that lies between two numbers it allows. -/
theorem Allows.of_between {m n k : ℕ} (hm : c.Allows m) (hn : c.Allows n) (h : 1 ≤ m) (hk : m ≤ k)
    (hk' : k ≤ n) : c.Allows k := by
  unfold Allows at *
  omega

/-! ## Pairs that one occurrence can say -/

theorem Totals.bridged (h : Totals c a b) (hg : ¬ (a.Gapless ∧ b.Gapless)) : Bridged a b := by
  have ha1 := a.one_le_least
  have hb1 := b.one_le_least
  have ha := a.least_le_most
  have hb := b.least_le_most
  have hau := a.most_le_unbounded
  have hbu := b.most_le_unbounded
  have hsum : ∀ n ≤ unbounded, c.Allows n ↔ _ := fun n hn => (h n hn).trans (sum_iff n)
  -- the least count of one is allowed alone if the other may be missing
  have hleft : b.optional = true → c.Allows a.least := fun ho =>
    (hsum _ (by omega)).2 (.inr (.inl ⟨ho, le_rfl, ha⟩))
  have hright : a.optional = true → c.Allows b.least := fun ho =>
    (hsum _ (by omega)).2 (.inr (.inr (.inl ⟨ho, le_rfl, hb⟩)))
  refine ⟨fun hao hbo => ⟨?_, ?_⟩, fun hu => ?_⟩
  · by_contra hlt
    have hk := (hright hao).of_between (hleft hbo) hb1 (k := a.least - 1) (by omega) (by omega)
    rw [hsum _ (by omega)] at hk
    omega
  · by_contra hlt
    have hk := (hleft hbo).of_between (hright hao) ha1 (k := b.least - 1) (by omega) (by omega)
    rw [hsum _ (by omega)] at hk
    omega
  · have hboth : c.Allows (a.least + b.least) := (hsum _ hu).2 (.inl (by omega))
    have hk : c.Allows (a.least + b.least - 1) := by
      by_cases hbo : b.optional = true
      · exact (hleft hbo).of_between hboth ha1 (by omega) (by omega)
      · have hao : a.optional = true := by
          by_contra hao
          exact hg ⟨fun ho => absurd ho hao, fun ho => absurd ho hbo⟩
        exact (hright hao).of_between hboth hb1 (by omega) (by omega)
    obtain hk | ⟨hbo, hk⟩ | ⟨hao, hk⟩ | ⟨-, hk⟩ := (hsum _ (by omega)).1 hk
    · omega
    · exact .inl ⟨hbo, by omega⟩
    · exact .inr ⟨hao, by omega⟩
    · omega

theorem exists_totals_of_range (lo hi : ℕ) (o : Bool)
    (hr : 1 ≤ lo ∧ lo ≤ hi ∧ hi ≤ unbounded)
    (h : ∀ n ≤ unbounded, lo ≤ n ∧ n ≤ hi ∨ n = 0 ∧ o = true ↔
      a.least + b.least ≤ n ∧ n ≤ a.most + b.most ∨
        b.optional = true ∧ a.least ≤ n ∧ n ≤ a.most ∨
        a.optional = true ∧ b.least ≤ n ∧ n ≤ b.most ∨
        (a.optional = true ∧ b.optional = true) ∧ n = 0) : ∃ c, Totals c a b :=
  ⟨⟨lo, hi, o, hr.1, hr.2.1, hr.2.2⟩, fun n hn => (h n hn).trans (sum_iff n).symm⟩

/-- Where no gap is left, the occurrence goes from the fewest above zero to the most in range. -/
theorem Bridged.exists_totals (h : Bridged a b) (hg : ¬ (a.Gapless ∧ b.Gapless)) :
    ∃ c, Totals c a b := by
  obtain ⟨hmeet, hboth⟩ := h
  have ha1 := a.one_le_least
  have hb1 := b.one_le_least
  have ha := a.least_le_most
  have hb := b.least_le_most
  have hau := a.most_le_unbounded
  have hbu := b.most_le_unbounded
  cases hao : a.optional <;> cases hbo : b.optional <;>
    simp only [hao, hbo, Bool.false_eq_true, true_and, false_and, or_false, false_or, or_self,
      forall_const] at hmeet hboth
  · exact absurd ⟨fun ho => by simp [hao] at ho, fun ho => by simp [hbo] at ho⟩ hg
  · -- what `b` adds is out of range, or it goes on where `a` ends
    by_cases hu : a.least + b.least ≤ unbounded
    · refine exists_totals_of_range a.least (min (a.most + b.most) unbounded) false (by omega) ?_
      simp only [hao, hbo, Bool.false_eq_true, true_and, false_and, and_false, or_false]
      omega
    · refine exists_totals_of_range a.least a.most false (by omega) ?_
      simp only [hao, hbo, Bool.false_eq_true, true_and, false_and, and_false, or_false]
      omega
  · by_cases hu : a.least + b.least ≤ unbounded
    · refine exists_totals_of_range b.least (min (a.most + b.most) unbounded) false (by omega) ?_
      simp only [hao, hbo, Bool.false_eq_true, true_and, false_and, and_false, or_false, false_or]
      omega
    · refine exists_totals_of_range b.least b.most false (by omega) ?_
      simp only [hao, hbo, Bool.false_eq_true, true_and, false_and, and_false, or_false, false_or]
      omega
  · by_cases hu : a.least + b.least ≤ unbounded
    · refine exists_totals_of_range (min a.least b.least) (min (a.most + b.most) unbounded) true
        (by omega) ?_
      simp only [hao, hbo, true_and, and_true]
      omega
    · refine exists_totals_of_range (min a.least b.least) (max a.most b.most) true (by omega) ?_
      simp only [hao, hbo, true_and, and_true]
      omega

/-! ## What merging gives up -/

theorem merge_of_not_gapless (hg : ¬ (a.Gapless ∧ b.Gapless)) : a.merge b = none := by
  cases h : a.merge b with
  | none => rfl
  | some c =>
    obtain ⟨ha, hb, -⟩ := merge_eq_some h
    exact absurd ⟨ha, hb⟩ hg

/-- Without gaps merging fails only if all sums are out of range. -/
theorem not_totals_of_gapless (ha : a.Gapless) (hb : b.Gapless) (h : a.merge b = none) :
    ¬ Totals c a b := by
  intro ht
  have hsum : unbounded < a.fewest + b.fewest := by
    by_contra hle
    obtain ⟨d, hd⟩ := exists_merge ha hb (not_lt.1 hle)
    rw [h] at hd
    cases hd
  have hc := c.least_le_most
  have hu := c.most_le_unbounded
  obtain ⟨i, j, hi, hj, hij⟩ := (ht c.least (by omega)).1 (.inl ⟨le_rfl, hc⟩)
  have hi := ((ha.allows_iff i).1 hi).1
  have hj := ((hb.allows_iff j).1 hj).1
  omega

/-- Merging gives up exactly if no occurrence says what the two allow together, or else one of them
has a gap that the other fills; in the latter case there is such an occurrence. -/
theorem merge_eq_none_iff (a b : Occurrence) :
    (a.merge b = none ↔
        (¬ ∃ c, Totals c a b) ∨ ¬ (a.Gapless ∧ b.Gapless) ∧ Bridged a b) ∧
      (¬ (a.Gapless ∧ b.Gapless) ∧ Bridged a b → ∃ c, Totals c a b) := by
  refine ⟨⟨fun h => ?_, ?_⟩, fun ⟨hg, hb⟩ => hb.exists_totals hg⟩
  · by_cases hg : a.Gapless ∧ b.Gapless
    · exact .inl fun ⟨c, hc⟩ => not_totals_of_gapless hg.1 hg.2 h hc
    · exact or_iff_not_imp_left.2 fun hc => ⟨hg, (not_not.1 hc).choose_spec.bridged hg⟩
  · rintro (h | ⟨hg, -⟩)
    · cases hm : a.merge b with
      | none => rfl
      | some c => exact absurd ⟨c, (merge_allows hm).2⟩ h
    · exact merge_of_not_gapless hg

/-- One or two, then two or none: these are one to four, but they do not merge. -/
theorem merge_oneOrTwo_twoOrNone : ∃ a b c, ofRange 1 2 = .ok a ∧ ofRange 2 2 = .ok b ∧
    ofRange 1 4 = .ok c ∧ a.merge (b.withOptional true) = none ∧
    Totals c a (b.withOptional true) := by
  refine ⟨_, _, _, rfl, rfl, rfl, rfl, fun n _ => ?_⟩
  rw [sum_iff]
  have h1 : (1 : UInt64).toNat = 1 := rfl
  have h2 : (2 : UInt64).toNat = 2 := rfl
  have h4 : (4 : UInt64).toNat = 4 := rfl
  have h0 : ((1 : UInt64) == 0) = false := rfl
  simp only [Allows, withOptional, h0, h1, h2, h4, Bool.false_eq_true, true_and, false_and,
    and_false, or_false]
  omega

end CorpusQuery.Occurrence
