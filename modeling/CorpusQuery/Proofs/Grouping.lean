import CorpusQuery.Compiler
import CorpusQuery.Proofs.Compositionality

/-!
# Brackets are neutral

Anywhere in a sentence, a run of a sequence or of alternatives may be put into brackets of its own
(`Sentence.Regrouped`). The run is then simplified before what stands around it, so its elements are
merged among themselves first; but all of it comes to the same sentence
(`Sentence.simplify_regrouped`), as long as the least counts of the elements add up to no more than
the largest count.
-/

namespace CorpusQuery.Sentence

/-- The second sentence is the first with brackets around one run, somewhere in a part that is open
to edits. -/
inductive Regrouped : Sentence → Sentence → Prop
  | sequence (as bs : List (List Sentence)) (xs run zs : List Sentence) (o : Occurrence)
      (hr : run ≠ []) :
      Regrouped (.composite (as ++ (xs ++ (run ++ zs)) :: bs) o false)
        (.composite (as ++ (xs ++ ofAlternatives [run] :: zs) :: bs) o false)
  | alternatives (as run bs : List (List Sentence)) (o : Occurrence) (hr : run ≠ []) :
      Regrouped (.composite (as ++ (run ++ bs)) o false)
        (.composite (as ++ [ofAlternatives run] :: bs) o false)
  | member (as bs : List (List Sentence)) (xs zs : List Sentence) (o : Occurrence)
      {s t : Sentence} (hst : Regrouped s t) :
      Regrouped (.composite (as ++ (xs ++ s :: zs) :: bs) o false)
        (.composite (as ++ (xs ++ t :: zs) :: bs) o false)

section Fold

variable {M : Type*} {A : Algebra M} {r : M → M → Prop}

theorem fold_alternative (h : A.Tolerates r) {ss ts : List Sentence}
    (hst : r (foldRow A ss) (foldRow A ts)) (as bs : List (List Sentence)) (o : Occurrence) :
    r ((composite (as ++ ss :: bs) o false).fold A)
      ((composite (as ++ ts :: bs) o false).fold A) := by
  rw [fold_composite, fold_composite]
  refine h.occurring o _ _ ?_
  rw [List.map_append, List.map_cons, List.map_append, List.map_cons]
  exact h.alternatives.congr _ _ _ _ hst

/-- What has brackets is related to what has none, so the steps lead from the second sentence to the
first. -/
theorem fold_regrouped (h : A.Tolerates r) {s t : Sentence} (hst : Regrouped s t) :
    r (t.fold A) (s.fold A) := by
  induction hst with
  | sequence as bs xs run zs o hr =>
    have hg : (ofAlternatives [run]).fold A = A.sequence (run.map (fold A)) := by
      rw [fold_ofAlternatives h, List.map_singleton, h.alternatives.single, foldRow]
    refine fold_alternative h ?_ as bs o
    rw [foldRow, foldRow, List.map_append, List.map_cons, hg, List.map_append, List.map_append]
    exact h.sequence.splice _ _ _ (by simpa using hr)
  | alternatives as run bs o hr =>
    have hg : foldRow A [ofAlternatives run] = A.alternatives (run.map (foldRow A)) := by
      rw [fold_alone h, fold_ofAlternatives h]
    rw [fold_composite, fold_composite]
    refine h.occurring o _ _ ?_
    rw [List.map_append, List.map_cons, hg, List.map_append, List.map_append]
    exact h.alternatives.splice _ _ _ (by simpa using hr)
  | member as bs xs zs o hst ih =>
    refine fold_alternative h ?_ as bs o
    rw [foldRow, foldRow, List.map_append, List.map_cons, List.map_append, List.map_cons]
    exact h.sequence.congr _ _ _ _ ih

end Fold

theorem elements_regrouped {s t : Sentence} (h : Regrouped s t) : t.elements = s.elements := by
  induction h with
  | sequence as bs xs run zs o hr => simp [elements_composite, ofAlternatives]
  | alternatives as run bs o hr => simp [elements_composite, ofAlternatives]
  | member as bs xs zs o hst ih => simp [elements_composite, ih]

theorem tidy_regrouped {s t : Sentence} (h : Regrouped s t) (hs : s.Tidy) : t.Tidy := by
  induction h with
  | sequence as bs xs run zs o hr =>
    simp only [ofAlternatives, tidy_open, List.forall_mem_append, List.forall_mem_cons] at hs ⊢
    obtain ⟨has, ⟨hxs, hrun, hzs⟩, hbs⟩ := hs
    exact ⟨has, ⟨hxs, ⟨hrun, by simp⟩, hzs⟩, hbs⟩
  | alternatives as run bs o hr =>
    simp only [ofAlternatives, tidy_open, List.forall_mem_append, List.forall_mem_cons] at hs ⊢
    obtain ⟨has, hrun, hbs⟩ := hs
    exact ⟨has, ⟨hrun, by simp⟩, hbs⟩
  | member as bs xs zs o hst ih =>
    simp only [tidy_open, List.forall_mem_append, List.forall_mem_cons] at hs ⊢
    obtain ⟨has, ⟨hxs, hs, hzs⟩, hbs⟩ := hs
    exact ⟨has, ⟨hxs, ih hs, hzs⟩, hbs⟩

/-- Brackets around a run change neither the simplified sentence nor its plan. -/
theorem simplify_regrouped {s t : Sentence} (hs : s.Reachable) (h : Regrouped s t)
    (hl : s.totalLeast ≤ unbounded) :
    t.simplify = s.simplify ∧ ∀ k : Compiler, k.compile t = k.compile s := by
  have hlt : (t.fold normalForms).least ≤ unbounded := by
    rw [fold_least, totalLeast, elements_regrouped h]
    exact hl
  have hst : t.simplify = s.simplify := by
    rw [← fold_normalForms hs.tidy, ← fold_normalForms (tidy_regrouped h hs.tidy)]
    exact (fold_regrouped normalForms_tolerates h hlt).1.symm
  refine ⟨hst, fun k => ?_⟩
  rw [Compiler.compile, Compiler.compile, hst]

/-- A name, perhaps one more, and a place. -/
def namesThenPlace : Sentence :=
  .ofAlternatives [[.ofPhrase ⟨[⟨.group (.named "text" "name" .full), .once⟩], false⟩,
    .ofPhrase ⟨[⟨.group (.named "text" "name" .full), .atMostOnce⟩], false⟩,
    .ofPhrase ⟨[⟨.group (.named "text" "place" .full), .once⟩], false⟩]]

/-- The same with brackets between the names. -/
def nameThenGroup : Sentence :=
  .ofAlternatives [[.ofPhrase ⟨[⟨.group (.named "text" "name" .full), .once⟩], false⟩,
    .ofAlternatives [[.ofPhrase ⟨[⟨.group (.named "text" "name" .full), .atMostOnce⟩], false⟩,
      .ofPhrase ⟨[⟨.group (.named "text" "place" .full), .once⟩], false⟩]]]]

theorem simplify_regrouped_names :
    namesThenPlace.Reachable ∧ Regrouped namesThenPlace nameThenGroup ∧
      namesThenPlace.totalLeast ≤ unbounded ∧
      nameThenGroup.simplify = namesThenPlace.simplify ∧
      ∀ k : Compiler, k.compile nameThenGroup = k.compile namesThenPlace := by
  have hr : namesThenPlace.Reachable := reachable_of_cleared rfl
  have hg : Regrouped namesThenPlace nameThenGroup :=
    .sequence [] [] [_] [_, _] [] .once (List.cons_ne_nil _ [_])
  have hl : namesThenPlace.totalLeast ≤ unbounded := by decide
  exact ⟨hr, hg, hl, simplify_regrouped hr hg hl⟩

end CorpusQuery.Sentence
