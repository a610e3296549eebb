import CorpusQuery.Chain
import CorpusQuery.Proofs.Simplification

/-!
# Assembling keeps scope

The builders of sentences put two values into one row and no further: appending to a sentence that
has no alternation is a sequence of the two (`Sentence.fold_followedBy`), adding a first option is a
choice between the two (`Sentence.fold_preferring`), and a further occurrence applies to the
sentence with the one it has (`Sentence.fold_quantify`). So a chain of filled sentences can be
assembled, and stands for what it says from right to left (`Chain.assemble_language`).
-/

namespace CorpusQuery

namespace Sentence

variable {M : Type*} {A : Algebra M} {r : M → M → Prop}

theorem fold_ofAlternatives (h : A.Tolerates r) (alts : List (List Sentence)) :
    (ofAlternatives alts).fold A = A.alternatives (alts.map (foldRow A)) := by
  rw [ofAlternatives, fold_composite, h.once]

theorem fold_alone (h : A.Tolerates r) (s : Sentence) : foldRow A [s] = s.fold A :=
  h.sequence.single _

theorem fold_grouped (h : A.Tolerates r) (s : Sentence) : s.grouped.fold A = s.fold A := by
  rw [grouped, fold_ofAlternatives h, List.map_singleton, h.alternatives.single, fold_alone h]

theorem fold_quantify (h : A.Tolerates r) (s : Sentence) (o : Occurrence) :
    (s.quantify o).fold A = A.occurring o (s.fold A) := by
  unfold quantify
  split_ifs with ho hs
  · rw [eq_once_of_isOnce ho, h.once]
  · exact fold_occurring h (eq_once_of_isOnce hs) o
  · rw [fold_occurring h rfl, fold_grouped h]

/-- Two sentences grouped in a row. -/
theorem fold_pair (h : A.Tolerates r) (s t : Sentence) :
    (ofAlternatives [[s, t]]).fold A = A.sequence [s.fold A, t.fold A] := by
  rw [fold_ofAlternatives h, List.map_singleton, h.alternatives.single]
  rfl

theorem fold_followedBy (h : A.Tolerates r) {s : Sentence} (hs : s.isSingle = true)
    (hf : s.Filled) (t : Sentence) :
    r (A.sequence [s.fold A, t.fold A]) ((s.followedBy t).fold A) := by
  unfold followedBy
  split
  · rename_i p o b q o' b'
    split_ifs with hft
    · have hu : fuse (basic p o b) (basic q o' b') = some (basic (p.fuse q) o b) := if_pos hft
      have := fold_fuse h hu [] []
      rwa [List.nil_append, List.nil_append, h.sequence.single] at this
    · rw [fold_pair h]
      exact h.refl _
  · rename_i alts o b
    split_ifs with ho
    · obtain ⟨ss, rfl⟩ : ∃ ss, alts = [ss] := by
        simpa [isSingle, List.length_eq_one_iff] using hs
      have hss : ss ≠ [] := ((filled_composite.1 hf).2 ss (List.mem_singleton_self _)).1
      rw [eq_once_of_isOnce ho, fold_composite, fold_composite, h.once, h.once, appendToLast,
        List.map_singleton, List.map_singleton, h.alternatives.single, h.alternatives.single]
      have := h.sequence.splice [] (ss.map (fold A)) [t.fold A] (by simpa using hss)
      simpa [foldRow] using this
    · rw [fold_pair h]
      exact h.refl _
  · rw [fold_pair h]
    exact h.refl _

theorem fold_preferring (h : A.Tolerates r) {s : Sentence} (hf : s.Filled) (t : Sentence) :
    r (A.alternatives [t.fold A, s.fold A]) ((s.preferring t).fold A) := by
  have hpair : (ofAlternatives [[t], [s]]).fold A = A.alternatives [t.fold A, s.fold A] := by
    rw [fold_ofAlternatives h, List.map_cons, List.map_singleton, fold_alone h, fold_alone h]
  unfold preferring
  split
  · rename_i alts o b
    split_ifs with ho
    · have halts : alts ≠ [] := (filled_composite.1 hf).1
      rw [eq_once_of_isOnce ho, fold_composite, fold_composite, h.once, h.once, List.map_cons,
        fold_alone h]
      have := h.alternatives.splice [t.fold A] (alts.map (foldRow A)) [] (by simpa using halts)
      simpa using this
    · rw [hpair]
      exact h.refl _
  · rw [hpair]
    exact h.refl _

/-! ## Edits of filled sentences -/

theorem filled_quantify {s : Sentence} (hf : s.Filled) (o : Occurrence) : (s.quantify o).Filled :=
  vacancy_eq_none.1 ((fold_quantify vacancies_tolerates s o).trans (vacancy_eq_none.2 hf))

theorem filled_grouped {s : Sentence} (hf : s.Filled) : s.grouped.Filled :=
  vacancy_eq_none.1 ((fold_grouped vacancies_tolerates s).trans (vacancy_eq_none.2 hf))

theorem filled_followedBy {s t : Sentence} (hs : s.isSingle = true) (hf : s.Filled)
    (ht : t.Filled) : (s.followedBy t).Filled := by
  have h := fold_followedBy vacancies_tolerates hs hf t
  rw [show s.fold vacancies = none from vacancy_eq_none.2 hf,
    show t.fold vacancies = none from vacancy_eq_none.2 ht] at h
  exact vacancy_eq_none.1 h.symm

theorem filled_preferring {s t : Sentence} (hf : s.Filled) (ht : t.Filled) :
    (s.preferring t).Filled := by
  have h := fold_preferring vacancies_tolerates hf t
  rw [show s.fold vacancies = none from vacancy_eq_none.2 hf,
    show t.fold vacancies = none from vacancy_eq_none.2 ht] at h
  exact vacancy_eq_none.1 h.symm

theorem simplified_quantify {s : Sentence} (hs : s.simplified = false) (o : Occurrence) :
    (s.quantify o).simplified = false := by
  unfold quantify
  split_ifs
  · exact hs
  · cases s <;> exact hs
  · rfl

theorem simplified_followedBy {s : Sentence} (hs : s.simplified = false) (t : Sentence) :
    (s.followedBy t).simplified = false := by
  unfold followedBy
  split
  · split_ifs
    · exact hs
    · rfl
  · split_ifs
    · exact hs
    · rfl
  · rfl

theorem simplified_preferring {s : Sentence} (hs : s.simplified = false) (t : Sentence) :
    (s.preferring t).simplified = false := by
  unfold preferring
  split
  · split_ifs
    · exact hs
    · rfl
  · rfl

theorem not_isVacant {s : Sentence} (hf : s.Filled) : s.isVacant = false := by
  cases hf with
  | basic h => exact List.isEmpty_eq_false_iff.2 h
  | composite => rfl

theorem append_filled {s : Sentence} (hs : s.simplified = false) (hf : s.Filled) (t : Sentence) :
    s.append t = .ok (s.followedBy t) := by
  simp [append, edit, hs, not_isVacant hf]

theorem addFirstOption_filled {s : Sentence} (hs : s.simplified = false) (hf : s.Filled)
    (t : Sentence) : s.addFirstOption t = .ok (s.preferring t) := by
  simp [addFirstOption, edit, hs, not_isVacant hf]

/-- An alternation is grouped before anything follows it, which leaves its value alone. -/
theorem inOnePiece (h : A.Tolerates r) {s : Sentence} (hs : s.simplified = false)
    (hf : s.Filled) : ∃ u, (if s.isSingle then s else s.grouped) = u ∧ u.isSingle = true ∧
      u.simplified = false ∧ u.Filled ∧ u.fold A = s.fold A := by
  split_ifs with h1
  · exact ⟨s, rfl, h1, hs, hf, rfl⟩
  · exact ⟨s.grouped, rfl, rfl, rfl, filled_grouped hf, fold_grouped h s⟩

end Sentence

/-! ## Chains -/

namespace Chain

open Sentence

/-- The rows that a chain stands for: those of its first sentence, as often as the pending
occurrence says, before or besides those of the whole rest. -/
def language : Chain → Language Plan
  | ⟨s, o, none⟩ => turns s.language o.counts
  | ⟨s, o, some (.sequence, c)⟩ => turns s.language o.counts * c.language
  | ⟨s, o, some (.alternation, c)⟩ => turns s.language o.counts + c.language

/-- The sentences of the chain in order. -/
def sentences : Chain → List Sentence
  | ⟨s, _, none⟩ => [s]
  | ⟨s, _, some (_, c)⟩ => s :: c.sentences

/-- The value of a chain in an algebra, from right to left. -/
def fold {M : Type*} (A : Algebra M) : Chain → M
  | ⟨s, o, none⟩ => A.occurring o (s.fold A)
  | ⟨s, o, some (.sequence, c)⟩ => A.sequence [A.occurring o (s.fold A), c.fold A]
  | ⟨s, o, some (.alternation, c)⟩ => A.alternatives [A.occurring o (s.fold A), c.fold A]

theorem fold_languages : ∀ c : Chain,
    c.fold (languages.prod bounds) = (c.language, (c.sentences.map totalBound).sum)
  | ⟨s, o, none⟩ => by
    rw [fold, fold_prod]
    rfl
  | ⟨s, o, some (.sequence, c)⟩ => by
    rw [fold, fold_prod, fold_languages c]
    show ([turns s.language o.counts, c.language].prod, [s.totalBound, _].sum) = _
    simp [language, sentences]
  | ⟨s, o, some (.alternation, c)⟩ => by
    rw [fold, fold_prod, fold_languages c]
    show ([turns s.language o.counts, c.language].sum, [s.totalBound, _].sum) = _
    simp [language, sentences]

/-- Filled sentences that are open to edits can be assembled, to one of the value of the chain. -/
theorem assemble_fold {M : Type*} {A : Algebra M} {r : M → M → Prop} (h : A.Tolerates r) :
    ∀ c : Chain, (∀ s ∈ c.sentences, s.simplified = false ∧ s.Filled) →
      ∃ s, c.assemble = .ok s ∧ s.simplified = false ∧ s.Filled ∧ r (c.fold A) (s.fold A)
  | ⟨s, o, none⟩, hc => by
    obtain ⟨hs, hf⟩ := hc s (List.mem_singleton_self s)
    refine ⟨s.quantify o, rfl, simplified_quantify hs o, filled_quantify hf o, ?_⟩
    rw [fold_quantify h]
    exact h.refl _
  | ⟨s, o, some (.sequence, c)⟩, hc => by
    obtain ⟨hs, hf⟩ := hc s List.mem_cons_self
    obtain ⟨t, ht, hts, htf, htr⟩ := assemble_fold h c fun s hs => hc s (List.mem_cons_of_mem _ hs)
    obtain ⟨u, hu, hu1, hus, huf, huv⟩ :=
      inOnePiece h (simplified_quantify hs o) (filled_quantify hf o)
    refine ⟨u.followedBy t, ?_, simplified_followedBy hus t, filled_followedBy hu1 huf htf, ?_⟩
    · rw [assemble, ht]
      simp only [hu]
      exact append_filled hus huf t
    · have h1 := h.sequence.congr [A.occurring o (s.fold A)] _ _ [] htr
      have h2 := fold_followedBy h hu1 huf t
      rw [huv, fold_quantify h] at h2
      exact h.trans h1 h2
  | ⟨s, o, some (.alternation, c)⟩, hc => by
    obtain ⟨hs, hf⟩ := hc s List.mem_cons_self
    obtain ⟨t, ht, hts, htf, htr⟩ := assemble_fold h c fun s hs => hc s (List.mem_cons_of_mem _ hs)
    have hq := filled_quantify hf o
    refine ⟨t.preferring (s.quantify o), ?_, simplified_preferring hts _, filled_preferring htf hq,
      ?_⟩
    · rw [assemble, ht]
      exact addFirstOption_filled hts htf _
    · have h1 := h.alternatives.congr [A.occurring o (s.fold A)] _ _ [] htr
      have h2 := fold_preferring h htf (s.quantify o)
      rw [fold_quantify h] at h2
      exact h.trans h1 h2

/-- A chain of filled sentences that are open to edits, whose finite bounds add up to less than the
largest count, is assembled to a sentence of its language. -/
theorem assemble_language (c : Chain)
    (hc : ∀ s ∈ c.sentences, s.simplified = false ∧ s.Filled)
    (hb : (c.sentences.map totalBound).sum < unbounded) :
    ∃ s, c.assemble = .ok s ∧ s.language = c.language := by
  obtain ⟨s, hs, -, -, hr⟩ := assemble_fold languages_tolerates c hc
  rw [fold_languages, fold_prod] at hr
  exact ⟨s, hs, (hr hb).1⟩

/-- An alternation, two or three times, and then a name. -/
def placesThenName : Chain where
  first := .ofAlternatives
    [[repeatedName], [.ofPhrase ⟨[⟨.group (.named "text" "place" .full), .once⟩], false⟩]]
  pending := { least := 2, most := 3, optional := false }
  rest := some (.sequence, ofSentence repeatedName)

theorem assemble_language_placesThenName :
    (∀ s ∈ placesThenName.sentences, s.simplified = false ∧ s.Filled) ∧
      (placesThenName.sentences.map totalBound).sum < unbounded ∧
      ∃ s, placesThenName.assemble = .ok s ∧ s.language = placesThenName.language :=
  ⟨by decide, by decide, assemble_language placesThenName (by decide) (by decide)⟩

end Chain

end CorpusQuery
