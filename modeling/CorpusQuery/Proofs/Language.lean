import CorpusQuery.Plan.Basic
import Mathlib

/-!
# The language of a plan

A plan stands for rows of elementary plans, those that a match runs through one after the other
(`Plan.language`): a disjunction for the rows of any clause, a sequence for rows of its items put
together, a recurrence for as many turns as its bounds allow. An occurrence is the set of counts
that it allows (`Occurrence.counts`); two that merge allow the sums of their counts
(`Occurrence.counts_merge`), as long as no finite bound runs into the largest count, which stands
for none. Repeating an item multiplies its language out by the counts
(`Plan.Item.language_repeated`).
-/

namespace CorpusQuery

open scoped Pointwise

/-! ## Counts -/

/-- The counts between two bounds; an upper bound of `unbounded` is none. -/
def between (lo hi : ℕ) : Set ℕ :=
  {n | lo ≤ n ∧ (n ≤ hi ∨ hi = unbounded)}

theorem mem_between {lo hi n : ℕ} : n ∈ between lo hi ↔ lo ≤ n ∧ (n ≤ hi ∨ hi = unbounded) :=
  Iff.rfl

/-- An upper bound, or zero where there is none. -/
def finiteBound (hi : ℕ) : ℕ :=
  if hi = unbounded then 0 else hi

/-- Counts are added by adding their bounds, unless two finite bounds add up to `unbounded`. -/
theorem between_add {lo hi lo' hi' : ℕ} (h : lo ≤ hi) (h' : lo' ≤ hi')
    (hf : finiteBound hi + finiteBound hi' < unbounded) :
    between lo hi + between lo' hi' = between (lo + lo') (min (hi + hi') unbounded) := by
  ext n
  simp only [Set.mem_add, mem_between]
  unfold finiteBound at hf
  constructor
  · rintro ⟨i, hi, j, hj, rfl⟩
    split_ifs at hf <;> omega
  · intro hn
    by_cases hu : hi' = unbounded
    · exact ⟨lo, by omega, n - lo, by omega, by omega⟩
    · -- as many as may be on the right, the rest on the left
      refine ⟨n - min hi' (n - lo), ?_, min hi' (n - lo), ?_, ?_⟩ <;> split_ifs at hf <;> omega

theorem between_zero {hi : ℕ} (h : 1 ≤ hi) : between 0 hi = between 1 hi ∪ {0} := by
  ext n
  simp only [mem_between, Set.mem_union, Set.mem_singleton_iff]
  omega

namespace Occurrence

/-- How often the part may stand. -/
def counts (o : Occurrence) : Set ℕ :=
  if o.optional then between o.least o.most ∪ {0} else between o.least o.most

theorem counts_once : once.counts = {1} := by
  ext n
  simp only [counts, once, Bool.false_eq_true, if_false, mem_between, Set.mem_singleton_iff,
    unbounded]
  omega

theorem least_mem_between (o : Occurrence) : o.least ∈ between o.least o.most :=
  ⟨le_rfl, .inl o.least_le_most⟩

theorem counts_of_optional {o : Occurrence} (ho : o.optional = true) (hl : o.least = 1) :
    o.counts = between 0 o.most := by
  have h1 : 1 ≤ o.most := hl ▸ o.least_le_most
  rw [counts, if_pos ho, hl, between_zero h1]

theorem counts_of_mandatory {o : Occurrence} (ho : o.optional = false) :
    o.counts = between o.least o.most := by
  rw [counts, if_neg (by simp [ho])]

/-- A merged occurrence allows the sums of what the two allow. -/
theorem counts_merge {a b c : Occurrence} (h : a.merge b = some c)
    (hf : finiteBound a.most + finiteBound b.most < unbounded) :
    c.counts = a.counts + b.counts := by
  unfold merge at h
  split at h <;> rename_i ha hb <;> split_ifs at h with hc <;> cases h
  · rw [counts_of_mandatory rfl, counts_of_mandatory ha, counts_of_mandatory hb,
      between_add a.least_le_most b.least_le_most hf]
    rfl
  · rw [counts_of_mandatory rfl, counts_of_mandatory ha, counts_of_optional hb hc,
      between_add a.least_le_most (Nat.zero_le _) hf]
    rfl
  · rw [counts_of_mandatory rfl, counts_of_optional ha hc, counts_of_mandatory hb,
      between_add (Nat.zero_le _) b.least_le_most hf, Nat.zero_add]
    rfl
  · rw [counts_of_optional rfl rfl, counts_of_optional ha hc.1, counts_of_optional hb hc.2,
      between_add (Nat.zero_le _) (Nat.zero_le _) hf]
    rfl

theorem finiteBound_merge {a b c : Occurrence} (h : a.merge b = some c) :
    finiteBound c.most ≤ finiteBound a.most + finiteBound b.most := by
  have hm : c.most = a.mostTogether b := by
    unfold merge at h
    split at h <;> split_ifs at h <;> cases h <;> rfl
  have ha := a.most_le_unbounded
  have hb := b.most_le_unbounded
  simp only [hm, mostTogether, finiteBound]
  split_ifs <;> omega

end Occurrence

/-! ## Turns -/

section Turns

variable {α : Type*}

/-- As many words of the language in a row as one of the counts says. -/
def turns (l : Language α) (ns : Set ℕ) : Language α :=
  ⨆ n ∈ ns, l ^ n

theorem mem_turns {l : Language α} {ns : Set ℕ} {w : List α} :
    w ∈ turns l ns ↔ ∃ n ∈ ns, w ∈ l ^ n := by
  simp only [turns, Language.mem_iSup, exists_prop]

theorem turns_add (l : Language α) (ms ns : Set ℕ) :
    turns l (ms + ns) = turns l ms * turns l ns := by
  ext w
  simp only [mem_turns, Language.mem_mul, Set.mem_add]
  constructor
  · rintro ⟨_, ⟨i, hi, j, hj, rfl⟩, hw⟩
    rw [pow_add] at hw
    obtain ⟨a, ha, b, hb, rfl⟩ := Language.mem_mul.1 hw
    exact ⟨a, ⟨i, hi, ha⟩, b, ⟨j, hj, hb⟩, rfl⟩
  · rintro ⟨a, ⟨i, hi, ha⟩, b, ⟨j, hj, hb⟩, rfl⟩
    refine ⟨i + j, ⟨i, hi, j, hj, rfl⟩, ?_⟩
    rw [pow_add]
    exact Language.append_mem_mul ha hb

theorem turns_singleton (l : Language α) (n : ℕ) : turns l {n} = l ^ n := by
  ext w
  simp only [mem_turns, Set.mem_singleton_iff, exists_eq_left]

theorem turns_union_zero (l : Language α) (ns : Set ℕ) :
    turns l (ns ∪ {0}) = turns l ns + 1 := by
  ext w
  simp only [mem_turns, Language.mem_add, Set.mem_union, or_and_right, exists_or,
    Set.mem_singleton_iff, exists_eq_left, pow_zero]

theorem turns_counts (l : Language α) (o : Occurrence) :
    turns l o.counts = if o.optional then turns l (between o.least o.most) + 1
      else turns l (between o.least o.most) := by
  rw [Occurrence.counts]
  split_ifs
  · exact turns_union_zero l _
  · rfl

theorem turns_once (l : Language α) : turns l Occurrence.once.counts = l := by
  rw [Occurrence.counts_once, turns_singleton, pow_one]

/-- Turns that may each be empty may be empty together. -/
theorem turns_add_one {l : Language α} {ns : Set ℕ} {n : ℕ} (hn : n ∈ ns) :
    turns (l + 1) ns + 1 = turns (l + 1) ns := by
  have h : (1 : Language α) ≤ turns (l + 1) ns := by
    intro w hw
    refine mem_turns.2 ⟨n, hn, ?_⟩
    have h1 : (1 : Language α) ≤ (l + 1) ^ n := one_le_pow_of_one_le' le_add_self n
    exact h1 hw
  rw [add_comm]
  exact (Language.le_iff _ _).1 h

end Turns

/-! ## Plans -/

namespace Plan

mutual

/-- The rows of elementary plans that the plan stands for. -/
def language : Plan → Language Plan
  | .anyOf ps => languageOfAny ps
  | .sequence is _ => languageOfRow is
  | .recurrence p lo hi _ => turns p.language (between lo.toNat hi.toNat)
  | p => {[p]}

def languageOfAny : List Plan → Language Plan
  | [] => 0
  | p :: ps => p.language + languageOfAny ps

/-- Rows of one row for each item, where an optional item may be left out. -/
def languageOfRow : List Item → Language Plan
  | [] => 1
  | ⟨p, optional⟩ :: is => (if optional then p.language + 1 else p.language) * languageOfRow is

end

/-- The rows that an item stands for, the empty one among them if it is optional. -/
def Item.language (i : Item) : Language Plan :=
  if i.optional then i.plan.language + 1 else i.plan.language

theorem languageOfAny_eq : ∀ ps : List Plan, languageOfAny ps = (ps.map language).sum
  | [] => rfl
  | p :: ps => by rw [languageOfAny, languageOfAny_eq ps, List.map_cons, List.sum_cons]

theorem languageOfRow_eq : ∀ is : List Item, languageOfRow is = (is.map Item.language).prod
  | [] => rfl
  | ⟨p, b⟩ :: is => by rw [languageOfRow, languageOfRow_eq is, List.map_cons, List.prod_cons]; rfl

theorem Item.language_toPlan (g : Option Ignore) (i : Item) :
    (i.toPlan g).language = i.language := by
  cases hi : i.optional with
  | false => simp [toPlan, language, hi]
  | true => simp [toPlan, Plan.language, languageOfRow_eq, hi]

/-- A repeated item stands for as many turns of it as the occurrence allows. -/
theorem Item.language_repeated (g : Option Ignore) (o : Occurrence) (i : Item) :
    (i.repeated g o).language = turns i.language o.counts := by
  have ho : (i.repeated g o).optional = (o.optional || i.optional) := rfl
  rw [language, ho, turns_counts]
  by_cases hm : 1 < o.most
  · have hp : (i.repeated g o).plan.language = turns i.language (between o.least o.most) := by
      rw [repeated, if_pos hm, Plan.language, language_toPlan]
      rfl
    rw [hp]
    cases o.optional with
    | true => rfl
    | false =>
      cases hi : i.optional with
      | false => rfl
      | true =>
        -- nothing at all is among the turns of an item that may be left out
        rw [language, hi]
        exact turns_add_one o.least_mem_between
  · have hb : between o.least o.most = {1} := by
      have h1 := o.one_le_least
      have hle := o.least_le_most
      rw [show o.least = 1 by omega, show o.most = 1 by omega]
      exact Occurrence.counts_once
    have hp : (i.repeated g o).plan = i.plan := if_neg hm
    rw [hp, hb, turns_singleton, pow_one, language]
    cases o.optional <;> cases i.optional <;> simp [add_assoc]

end Plan

end CorpusQuery
