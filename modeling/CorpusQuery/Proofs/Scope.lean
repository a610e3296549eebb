import CorpusQuery.Proofs.Assembly

/-!
# Builders keep occurrences in scope

What is added to a sentence never comes under the occurrence that the sentence has. A first option
is united with the whole of it (`Sentence.preferring_language`). What is appended follows the whole
of a phrase and of a sentence with an occurrence (`Sentence.followedBy_language`), and only the last
alternative of a composite that stands once (`Sentence.followedBy_alternatives_language`). So the
language of an edited sentence is told by those of the two, and a simplified sentence refuses the
edit (`Sentence.edits_language`).
-/

namespace CorpusQuery.Sentence

/-- The rows of an alternative: rows of its elements put together. -/
def rowLanguage (ss : List Sentence) : Language Plan :=
  (ss.map language).prod

theorem language_alternatives (alts : List (List Sentence)) (b : Bool) :
    (composite alts .once b).language = (alts.map rowLanguage).sum := by
  rw [language, fold_composite]
  exact turns_once _

/-! ## First options -/

theorem preferring_language {s t : Sentence} (hs : s.Filled)
    (hb : t.totalBound + s.totalBound < unbounded) :
    (s.preferring t).language = t.language + s.language := by
  have h := fold_preferring languages_tolerates hs t
  rw [fold_prod, fold_prod, fold_prod] at h
  have hsum : [t.totalBound, s.totalBound].sum < unbounded := by simpa using hb
  have hl : (s.preferring t).language = [t.language, s.language].sum := (h hsum).1
  simpa using hl

/-! ## Sentences that follow -/

theorem followedBy_of_repeated {s : Sentence} (ho : s.occurrence.isOnce = false) (t : Sentence) :
    s.followedBy t = ofAlternatives [[s, t]] := by
  cases s with
  | basic p o b =>
    have ho : o.isOnce = false := ho
    cases t <;> simp [followedBy, isFusable, ho]
  | composite alts o b =>
    have ho : o.isOnce = false := ho
    simp [followedBy, ho]

theorem appendToLast_append (t : Sentence) : ∀ (front : List (List Sentence)) (last : List Sentence),
    appendToLast (front ++ [last]) t = front ++ [last ++ [t]]
  | [], _ => rfl
  | [_], _ => rfl
  | ss :: ss' :: front, last => congrArg (ss :: ·) (appendToLast_append t (ss' :: front) last)

theorem followedBy_alternatives (front : List (List Sentence)) (last : List Sentence) (b : Bool)
    (t : Sentence) :
    (composite (front ++ [last]) .once b).followedBy t
      = composite (front ++ [last ++ [t]]) .once b := by
  rw [followedBy, ← appendToLast_append]
  exact if_pos rfl

/-- The alternatives before the last stay as they are. -/
theorem followedBy_alternatives_language (front : List (List Sentence)) (last : List Sentence)
    (b : Bool) (t : Sentence) :
    ((composite (front ++ [last]) .once b).followedBy t).language
      = (front.map rowLanguage).sum + rowLanguage last * t.language := by
  rw [followedBy_alternatives, language_alternatives]
  simp [rowLanguage]

theorem followedBy_language {s t : Sentence} (hs : s.Filled)
    (h1 : s.isSingle = true ∨ s.occurrence.isOnce = false)
    (hb : s.totalBound + t.totalBound < unbounded) :
    (s.followedBy t).language = s.language * t.language := by
  let A := languages.prod bounds
  have h : SameWithin (A.sequence [s.fold A, t.fold A]) ((s.followedBy t).fold A) := by
    rcases h1 with h1 | ho
    · exact fold_followedBy languages_tolerates h1 hs t
    · rw [followedBy_of_repeated ho, fold_pair languages_tolerates]
      exact languages_tolerates.refl _
  rw [fold_prod, fold_prod, fold_prod] at h
  have hsum : [s.totalBound, t.totalBound].sum < unbounded := by simpa using hb
  have hl : (s.followedBy t).language = [s.language, t.language].prod := (h hsum).1
  simpa using hl

/-! ## Edits -/

theorem append_simplified {s : Sentence} (hs : s.simplified = true) (t : Sentence) :
    s.append t = .error (.alreadySimplified .appendSentence) :=
  if_pos hs

theorem addFirstOption_simplified {s : Sentence} (hs : s.simplified = true) (t : Sentence) :
    s.addFirstOption t = .error (.alreadySimplified .addFirstOption) :=
  if_pos hs

/-- A filled sentence that is open to edits takes another in, as its first option or after it, where
after a composite that stands once is after its last alternative. A simplified one refuses both, and
no sentence takes its place. -/
theorem edits_language (s t : Sentence) :
    (s.simplified = false → s.Filled → s.totalBound + t.totalBound < unbounded →
      (∃ u, s.addFirstOption t = .ok u ∧ u.language = t.language + s.language) ∧
      ∃ u, s.append t = .ok u ∧
        ((∃ p o b, s = .basic p o b) ∨ s.occurrence ≠ .once →
          u.language = s.language * t.language) ∧
        ∀ front last b, s = .composite (front ++ [last]) .once b →
          u.language = (front.map rowLanguage).sum + rowLanguage last * t.language) ∧
    (s.simplified = true →
      s.addFirstOption t = .error (.alreadySimplified .addFirstOption) ∧
      s.append t = .error (.alreadySimplified .appendSentence)) := by
  refine ⟨fun hs hf hb => ⟨?_, ?_⟩, fun hs => ?_⟩
  · refine ⟨s.preferring t, addFirstOption_filled hs hf t, preferring_language hf ?_⟩
    rwa [Nat.add_comm]
  · refine ⟨s.followedBy t, append_filled hs hf t, fun h => ?_, ?_⟩
    · refine followedBy_language hf ?_ hb
      rcases h with ⟨p, o, b, rfl⟩ | ho
      · exact .inl rfl
      · exact .inr (decide_eq_false ho)
    · rintro front last b rfl
      exact followedBy_alternatives_language front last b t
  · exact ⟨addFirstOption_simplified hs t, append_simplified hs t⟩

theorem edits_language_places :
    let s := Chain.placesThenName.first
    let q := s.occurring Chain.placesThenName.pending
    let t := repeatedName
    (∃ u, s.addFirstOption t = .ok u ∧ u.language = t.language + s.language) ∧
      (∃ front last u, s = .composite (front ++ [last]) .once false ∧ s.append t = .ok u ∧
        u.language = (front.map rowLanguage).sum + rowLanguage last * t.language) ∧
      (∃ u, q.append t = .ok u ∧ u.language = q.language * t.language) ∧
      s.simplify.append t = .error (.alreadySimplified .appendSentence) := by
  intro s q t
  obtain ⟨hfirst, u, hu, -, halts⟩ := (edits_language s t).1 rfl (by decide) (by decide)
  obtain ⟨-, v, hv, hrow, -⟩ := (edits_language q t).1 rfl (by decide) (by decide)
  have hrefused := (edits_language s.simplify t).2 (by decide)
  exact ⟨hfirst, ⟨[_], _, u, rfl, hu, halts [_] _ false rfl⟩, ⟨v, hv, hrow (.inr (by decide))⟩,
    hrefused.2⟩

end CorpusQuery.Sentence
