import CorpusQuery.Proofs.Lowering

/-!
# Simplification keeps the language

No step of simplification moves the first vacancy of a sentence (`Sentence.vacancy_simplify`), and
none changes its language as long as no two finite bounds add up to the largest count, which would
take the bound away: the sum of them never grows (`Sentence.language_simplify`). So a sentence and
its simplified form are lowered to plans of one language or fail alike
(`Sentence.simplify_same_language`).
-/

namespace CorpusQuery

namespace Element

theorem merge_eq_some {a b c : Element} (h : merge a b = some c) :
    c.content = a.content ∧ a.content = b.content ∧
      a.occurrence.merge b.occurrence = some c.occurrence := by
  unfold merge at h
  split_ifs at h with hc
  obtain ⟨o, ho, rfl⟩ := Option.map_eq_some_iff.1 h
  exact ⟨rfl, hc, ho⟩

theorem merge_language {a b c : Element} (h : merge a b = some c)
    (hf : finiteBound a.occurrence.most + finiteBound b.occurrence.most < unbounded) :
    c.language = a.language * b.language := by
  obtain ⟨hc, hab, ho⟩ := merge_eq_some h
  rw [language, language, language, hc, ← hab, Occurrence.counts_merge ho hf, turns_add]

theorem merge_bound {a b c : Element} (h : merge a b = some c) :
    finiteBound c.occurrence.most
      ≤ finiteBound a.occurrence.most + finiteBound b.occurrence.most :=
  Occurrence.finiteBound_merge (merge_eq_some h).2.2

end Element

namespace Sentence

variable {M N : Type*}

/-- Two algebras side by side. -/
def Algebra.prod (A : Algebra M) (B : Algebra N) : Algebra (M × N) where
  element e := (A.element e, B.element e)
  phrase ms := (A.phrase (ms.map (·.1)), B.phrase (ms.map (·.2)))
  sequence ms := (A.sequence (ms.map (·.1)), B.sequence (ms.map (·.2)))
  alternatives ms := (A.alternatives (ms.map (·.1)), B.alternatives (ms.map (·.2)))
  occurring o m := (A.occurring o m.1, B.occurring o m.2)

theorem fold_prod (A : Algebra M) (B : Algebra N) :
    ∀ s : Sentence, s.fold (A.prod B) = (s.fold A, s.fold B) := by
  refine induction (fun p o b => ?_) fun alts o b ih => ?_
  · simp [fold_basic, Algebra.prod, Function.comp_def]
  · have hrow : ∀ ss ∈ alts, foldRow (A.prod B) ss = (foldRow A ss, foldRow B ss) := by
      intro ss hss
      rw [foldRow, List.map_congr_left (ih ss hss)]
      simp [foldRow, Algebra.prod, Function.comp_def]
    rw [fold_composite, List.map_congr_left hrow]
    simp [fold_composite, Algebra.prod, Function.comp_def]

/-! ## Vacancies -/

theorem flat_firstVacancy (v : Vacancy) : Flat (· = ·) (firstVacancy v) where
  congr := by
    rintro xs m _ ys rfl
    rfl
  single m := by cases m <;> rfl
  splice := by
    intro xs ys zs hys
    simp [firstVacancy, findSome?_cons_or, hys]

theorem vacancies_tolerates : vacancies.Tolerates (· = ·) where
  refl _ := rfl
  trans := Eq.trans
  occurring _ _ _ h := h
  once _ := rfl
  merge xs a b c ys _ := by simp [vacancies, firstVacancy]
  fuse xs es fs ys he hf := by
    simp [vacancies, firstVacancy, findSome?_cons_or, he, hf, Option.or_assoc]
  sequence := flat_firstVacancy .sequence
  alternatives := flat_firstVacancy .composite

theorem vacancy_simplify (s : Sentence) : s.simplify.vacancy = s.vacancy :=
  (fold_simplify vacancies_tolerates s).symm

/-! ## Languages -/

/-- The sums of the finite upper bounds of the elements. Those of sentences are never added up. -/
def bounds : Algebra ℕ where
  element e := finiteBound e.occurrence.most
  phrase := List.sum
  sequence := List.sum
  alternatives := List.sum
  occurring _ n := n

/-- The sum of the finite upper bounds of all elements of the sentence. -/
def totalBound (s : Sentence) : ℕ :=
  s.fold bounds

/-- The same language within a total that is no larger, unless the total is out of range. -/
def SameWithin (m n : Language Plan × ℕ) : Prop :=
  m.2 < unbounded → n.1 = m.1 ∧ n.2 ≤ m.2

theorem flat_prod [Monoid M] : Flat (· = ·) (List.prod : List M → M) where
  congr := by
    rintro xs m _ ys rfl
    rfl
  single := by simp
  splice := by simp

theorem flat_sum [AddMonoid M] : Flat (· = ·) (List.sum : List M → M) where
  congr := by
    rintro xs m _ ys rfl
    rfl
  single := by simp
  splice := by simp

theorem flat_within {op : List (Language Plan) → Language Plan} (h : Flat (· = ·) op) :
    Flat SameWithin fun ms => (op (ms.map (·.1)), (ms.map (·.2)).sum) where
  congr xs m n ys hmn hb := by
    simp only [List.map_append, List.map_cons, List.sum_append, List.sum_cons] at hb ⊢
    obtain ⟨e, l⟩ := hmn (by omega)
    exact ⟨h.congr _ _ _ _ e, by omega⟩
  single m := Prod.ext (h.single m.1) (by simp)
  splice xs ys zs hys _ := by
    simp only [List.map_append, List.map_cons]
    exact ⟨(h.splice _ _ _ (by simpa using hys)).symm, by simp⟩

theorem languages_tolerates : (languages.prod bounds).Tolerates SameWithin where
  refl m _ := ⟨rfl, le_rfl⟩
  trans h1 h2 hb := by
    obtain ⟨e1, l1⟩ := h1 hb
    obtain ⟨e2, l2⟩ := h2 (l1.trans_lt hb)
    exact ⟨e2.trans e1, l2.trans l1⟩
  occurring o m n h hb := by
    obtain ⟨e, l⟩ := h hb
    exact ⟨congrArg (turns · o.counts) e, l⟩
  once m := Prod.ext (turns_once m.1) rfl
  merge xs a b c ys hc hb := by
    simp only [Algebra.prod, languages, bounds, List.map_append, List.map_cons, List.sum_append,
      List.sum_cons, List.prod_append, List.prod_cons] at hb ⊢
    have hl := Element.merge_bound hc
    exact ⟨by rw [Element.merge_language hc (by omega), mul_assoc], by omega⟩
  fuse xs es fs ys _ _ _ := by
    simp [Algebra.prod, languages, bounds, mul_assoc, Nat.add_assoc]
  sequence := flat_within flat_prod
  alternatives := flat_within flat_sum

/-- Simplification keeps the language of a sentence whose finite bounds add up to less than the
largest count. -/
theorem language_simplify {s : Sentence} (h : s.totalBound < unbounded) :
    s.simplify.language = s.language ∧ s.simplify.totalBound ≤ s.totalBound := by
  have := fold_simplify languages_tolerates s
  rw [fold_prod, fold_prod] at this
  exact this h

/-- A sentence and its simplified form have plans of one language, or neither has a plan, and both
fail with the same error. -/
theorem simplify_same_language (g : Option Plan.Ignore) (s : Sentence)
    (h : s.totalBound < unbounded) :
    (∃ p q, s.toPlan g = .ok p ∧ s.simplify.toPlan g = .ok q ∧ q.language = p.language) ∨
      ∃ v, s.toPlan g = .error (.nothingToLower v) ∧
        s.simplify.toPlan g = .error (.nothingToLower v) := by
  have hs := toPlan_language g s.simplify
  rw [vacancy_simplify, (language_simplify h).1] at hs
  rcases ok_or_error (toPlan_language g s) with ⟨hv, p, hp, hl⟩ | ⟨v, hv, hp⟩ <;>
    rcases ok_or_error hs with ⟨hv', q, hq, hl'⟩ | ⟨w, hv', hq⟩ <;> rw [hv] at hv' <;> cases hv'
  · exact .inl ⟨p, q, hp, hq, hl'.trans hl.symm⟩
  · exact .inr ⟨v, hp, hq⟩

/-- A name and, in brackets, one more of it or none. -/
def repeatedName : Sentence :=
  .ofAlternatives [[.ofPhrase ⟨[⟨.group (.named "text" "name" .full), .once⟩], false⟩,
    .grouped (.ofPhrase ⟨[⟨.group (.named "text" "name" .full), .atMostOnce⟩], false⟩)]]

example : repeatedName.simplify = .basic
    ⟨[⟨.group (.named "text" "name" .full), { least := 1, most := 2, optional := false }⟩], true⟩
    .once true := by cbv

theorem simplify_same_language_repeatedName :
    repeatedName.totalBound < unbounded ∧
      ((∃ p q, repeatedName.toPlan none = .ok p ∧ repeatedName.simplify.toPlan none = .ok q ∧
          q.language = p.language) ∨
        ∃ v, repeatedName.toPlan none = .error (.nothingToLower v) ∧
          repeatedName.simplify.toPlan none = .error (.nothingToLower v)) :=
  ⟨by decide, simplify_same_language none repeatedName (by decide)⟩

end Sentence

end CorpusQuery
