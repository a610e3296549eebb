import CorpusQuery.Sentence.Simplification
import Mathlib.Data.List.Basic

/-!
# Sentence algebras

An algebra says what to make of the elements, phrases, sequences, alternatives and occurrences of a
sentence, and folding a sentence by it gives the value of the whole. Simplification makes small
steps only: it merges two neighbouring elements, puts two neighbouring phrases into one, or takes
brackets away. So an algebra for which each of these steps leads from a value to a related one
(`Algebra.Tolerates`) relates the value of a sentence to that of its simplified form
(`fold_simplify`).
-/

namespace CorpusQuery

/-! ## Merging neighbours step by step -/

namespace Neighbours

variable {α : Type} {rule : α → α → Option α} {P : List α → Prop}

/-- What holds of a list and is kept when two neighbours merge holds after the pass. -/
theorem mergeFrom_keeps
    (step : ∀ xs a b c ys, rule a b = some c → P (xs ++ a :: b :: ys) → P (xs ++ c :: ys))
    (a : α) (bs : List α) : ∀ xs, P (xs ++ a :: bs) → P (xs ++ mergeFrom rule a bs) := by
  fun_induction mergeFrom rule a bs with
  | case1 a => exact fun _ h => h
  | case2 a b bs c hc ih => exact fun xs h => ih xs (step xs a b c bs hc h)
  | case3 a b bs _ ih =>
    intro xs h
    have := ih (xs ++ [a]) (by simpa using h)
    simpa using this

theorem merge_keeps
    (step : ∀ xs a b c ys, rule a b = some c → P (xs ++ a :: b :: ys) → P (xs ++ c :: ys))
    {as : List α} (h : P as) : P (merge rule as) := by
  cases as with
  | nil => exact h
  | cons a as => exact mergeFrom_keeps step a as [] h

theorem mergeOnto_keeps
    (step : ∀ xs a b c ys, rule a b = some c → P (xs ++ a :: b :: ys) → P (xs ++ c :: ys))
    (as bs : List α) : ∀ xs, P (xs ++ (as ++ bs)) → P (xs ++ mergeOnto rule as bs) := by
  fun_induction mergeOnto rule as bs with
  | case1 bs =>
    intro xs h
    exact merge_keeps (P := fun l => P (xs ++ l))
      (fun ys a b c zs hc h => by
        have := step (xs ++ ys) a b c zs hc (by simpa using h)
        simpa using this) h
  | case2 a bs => exact mergeFrom_keeps step a bs
  | case3 a b as bs ih =>
    intro xs h
    have := ih (xs ++ [a]) (by simpa using h)
    simpa using this

end Neighbours

namespace Sentence

/-! ## Recursion over sentences -/

/-- Induction over a sentence, with the claim at hand for every element of every alternative. -/
theorem induction {P : Sentence → Prop} (basic : ∀ p o b, P (.basic p o b))
    (composite : ∀ alts o b, (∀ ss ∈ alts, ∀ s ∈ ss, P s) → P (.composite alts o b)) :
    ∀ s, P s :=
  @Sentence.rec P (fun alts => ∀ ss ∈ alts, ∀ s ∈ ss, P s) (fun ss => ∀ s ∈ ss, P s)
    basic composite
    (by simp) (fun _ _ hss halts => List.forall_mem_cons.2 ⟨hss, halts⟩)
    (by simp) (fun _ _ hs hss => List.forall_mem_cons.2 ⟨hs, hss⟩)

theorem simplifySequence_eq : ∀ ss : List Sentence, simplifySequence ss = ss.map simplify
  | [] => rfl
  | s :: ss => by rw [simplifySequence, simplifySequence_eq ss, List.map_cons]

theorem simplifyAlternatives_eq : ∀ alts : List (List Sentence),
    simplifyAlternatives alts = alts.map fun ss => compact (ss.map simplify)
  | [] => rfl
  | ss :: alts => by
    rw [simplifyAlternatives, simplifyAlternatives_eq alts, simplifySequence_eq, List.map_cons]

theorem splicedAll_eq : ∀ ss : List Sentence, splicedAll ss = ss.flatMap spliced
  | [] => rfl
  | s :: ss => by rw [splicedAll, splicedAll_eq ss, List.flatMap_cons]

/-! ## Algebras -/

/-- What to make of the parts of a sentence. -/
structure Algebra (M : Type*) where
  element : Element → M
  phrase : List M → M
  sequence : List M → M
  alternatives : List M → M
  /-- A value that stands as often as an occurrence says. -/
  occurring : Occurrence → M → M

section Fold

variable {M N : Type*} (A : Algebra M)

mutual

/-- The value of a sentence in an algebra. -/
def fold : Sentence → M
  | .basic p o _ => A.occurring o (A.phrase (p.elements.map A.element))
  | .composite alts o _ => A.occurring o (A.alternatives (foldAlternatives alts))

def foldAlternatives : List (List Sentence) → List M
  | [] => []
  | ss :: alts => A.sequence (foldSequence ss) :: foldAlternatives alts

def foldSequence : List Sentence → List M
  | [] => []
  | s :: ss => fold s :: foldSequence ss

end

/-- The value of an alternative. -/
def foldRow (ss : List Sentence) : M :=
  A.sequence (ss.map (fold A))

theorem foldSequence_eq : ∀ ss : List Sentence, foldSequence A ss = ss.map (fold A)
  | [] => rfl
  | s :: ss => by rw [foldSequence, foldSequence_eq ss, List.map_cons]

theorem foldAlternatives_eq : ∀ alts : List (List Sentence),
    foldAlternatives A alts = alts.map (foldRow A)
  | [] => rfl
  | ss :: alts => by
    rw [foldAlternatives, foldAlternatives_eq alts, foldSequence_eq, List.map_cons, foldRow]

theorem fold_basic (p : Phrase) (o : Occurrence) (b : Bool) :
    (basic p o b).fold A = A.occurring o (A.phrase (p.elements.map A.element)) := by
  rw [fold]

theorem fold_composite (alts : List (List Sentence)) (o : Occurrence) (b : Bool) :
    (composite alts o b).fold A = A.occurring o (A.alternatives (alts.map (foldRow A))) := by
  rw [fold, foldAlternatives_eq]

end Fold

/-! ## Simplification -/

section Simplify

variable {M : Type*} {A : Algebra M} {r : M → M → Prop}

/-- An operation on rows that takes brackets around a part of the row away. -/
structure Flat (r : M → M → Prop) (op : List M → M) : Prop where
  congr : ∀ xs m n ys, r m n → r (op (xs ++ m :: ys)) (op (xs ++ n :: ys))
  single : ∀ m, op [m] = m
  splice : ∀ xs ys zs, ys ≠ [] → r (op (xs ++ op ys :: zs)) (op (xs ++ (ys ++ zs)))

/-- The steps of simplification lead from a value to one that `r` relates it to. -/
structure Algebra.Tolerates (A : Algebra M) (r : M → M → Prop) : Prop where
  refl : ∀ m, r m m
  trans : ∀ {l m n}, r l m → r m n → r l n
  occurring : ∀ o m n, r m n → r (A.occurring o m) (A.occurring o n)
  once : ∀ m, A.occurring .once m = m
  merge : ∀ xs a b c ys, Element.merge a b = some c →
    r (A.phrase (xs ++ A.element a :: A.element b :: ys)) (A.phrase (xs ++ A.element c :: ys))
  fuse : ∀ xs es fs ys, es ≠ [] → fs ≠ [] →
    r (A.sequence (xs ++ A.phrase es :: A.phrase fs :: ys))
      (A.sequence (xs ++ A.phrase (es ++ fs) :: ys))
  sequence : Flat r A.sequence
  alternatives : Flat r A.alternatives

/-- Replacing each value of a row, one after the other. -/
theorem Algebra.Tolerates.flatMap (h : A.Tolerates r) (op : List M → M) {α : Type*} {f : α → M}
    {k : α → List M} : ∀ (l : List α) (xs ys : List M),
      (∀ a ∈ l, ∀ xs ys, r (op (xs ++ f a :: ys)) (op (xs ++ (k a ++ ys)))) →
      r (op (xs ++ (l.map f ++ ys))) (op (xs ++ (l.flatMap k ++ ys)))
  | [], _, _, _ => h.refl _
  | a :: l, xs, ys, hk => by
    have h1 := hk a List.mem_cons_self xs (l.map f ++ ys)
    have h2 := h.flatMap op l (xs ++ k a) ys fun b hb => hk b (List.mem_cons_of_mem _ hb)
    simp only [List.append_assoc] at h2
    simpa using h.trans h1 h2

theorem Algebra.Tolerates.map (h : A.Tolerates r) {op : List M → M} (hop : Flat r op)
    {α : Type*} {f g : α → M} {l : List α} (hl : ∀ a ∈ l, r (f a) (g a)) :
    r (op (l.map f)) (op (l.map g)) := by
  have := h.flatMap op (f := f) (k := fun a => [g a]) l [] []
    fun a ha xs ys => hop.congr xs _ _ ys (hl a ha)
  simpa [← List.map_eq_flatMap] using this

theorem eq_once_of_isOnce {o : Occurrence} (h : o.isOnce = true) : o = .once :=
  of_decide_eq_true h

theorem merge_phrase (h : A.Tolerates r) {m : M} (xs : List Element) (a b c : Element)
    (ys : List Element) (hc : Element.merge a b = some c)
    (hm : r m (A.phrase ((xs ++ a :: b :: ys).map A.element))) :
    r m (A.phrase ((xs ++ c :: ys).map A.element)) := by
  refine h.trans hm ?_
  simpa using h.merge (xs.map A.element) a b c (ys.map A.element) hc

theorem simplify_phrase (h : A.Tolerates r) (p : Phrase) :
    r (A.phrase (p.elements.map A.element)) (A.phrase (p.simplify.elements.map A.element)) := by
  unfold Phrase.simplify
  split_ifs
  · exact h.refl _
  · exact Neighbours.merge_keeps
      (P := fun es => r (A.phrase (p.elements.map A.element)) (A.phrase (es.map A.element)))
      (merge_phrase h) (h.refl _)

theorem fuse_phrase (h : A.Tolerates r) (p q : Phrase) :
    r (A.phrase (p.elements.map A.element ++ q.elements.map A.element))
      (A.phrase ((p.fuse q).elements.map A.element)) := by
  rw [← List.map_append]
  unfold Phrase.fuse
  split_ifs
  · exact Neighbours.mergeOnto_keeps
      (P := fun es => r (A.phrase ((p.elements ++ q.elements).map A.element))
        (A.phrase (es.map A.element)))
      (merge_phrase h) p.elements q.elements [] (h.refl _)
  · exact h.refl _

theorem isFusable_iff {s : Sentence} :
    s.isFusable = true ↔ ∃ p b, s = .basic p .once b ∧ p.elements ≠ [] := by
  cases s with
  | composite alts o b => simp [isFusable]
  | basic p o b =>
    simp only [isFusable, Bool.and_eq_true, Occurrence.isOnce, decide_eq_true_eq, Phrase.isEmpty,
      Bool.not_eq_true', List.isEmpty_eq_false_iff, basic.injEq]
    constructor
    · rintro ⟨rfl, hp⟩
      exact ⟨p, b, ⟨rfl, rfl, rfl⟩, hp⟩
    · rintro ⟨p, b, ⟨rfl, rfl, rfl⟩, hp⟩
      exact ⟨rfl, hp⟩

theorem fuse_eq_some {s t u : Sentence} (h : fuse s t = some u) :
    ∃ p q b c, s = .basic p .once b ∧ t = .basic q .once c ∧ p.elements ≠ [] ∧ q.elements ≠ [] ∧
      u = .basic (p.fuse q) .once b := by
  unfold fuse at h
  split at h
  · split_ifs at h with hf
    obtain ⟨hs, ht⟩ := Bool.and_eq_true_iff.1 hf
    obtain ⟨_, _, hs, hp⟩ := isFusable_iff.1 hs
    obtain ⟨_, _, ht, hq⟩ := isFusable_iff.1 ht
    cases hs
    cases ht
    cases h
    exact ⟨_, _, _, _, rfl, rfl, hp, hq, rfl⟩
  · simp at h

theorem fold_fuse (h : A.Tolerates r) {s t u : Sentence} (hu : fuse s t = some u) (xs ys : List M) :
    r (A.sequence (xs ++ s.fold A :: t.fold A :: ys)) (A.sequence (xs ++ u.fold A :: ys)) := by
  obtain ⟨p, q, b, c, rfl, rfl, hp, hq, rfl⟩ := fuse_eq_some hu
  simp only [fold_basic, h.once]
  refine h.trans (h.fuse xs _ _ ys (by simpa using hp) (by simpa using hq)) ?_
  exact h.sequence.congr xs _ _ ys (fuse_phrase h p q)

/-- A sentence may be replaced by what it brings into a sequence. -/
theorem fold_spliced (h : A.Tolerates r) : ∀ s : Sentence, ∀ xs ys,
    r (A.sequence (xs ++ s.fold A :: ys)) (A.sequence (xs ++ (s.spliced.map (fold A) ++ ys))) := by
  refine induction (fun p o b xs ys => ?_) fun alts o b ih xs ys => ?_
  · simpa [spliced] using h.refl _
  · unfold spliced
    split
    · rename_i s ss o b heq
      cases heq
      split_ifs with ho
      · have hs : (composite [s :: ss] o b).fold A = A.sequence ((s :: ss).map (fold A)) := by
          rw [fold_composite, eq_once_of_isOnce ho, h.once]
          exact h.alternatives.single _
        have h1 := h.sequence.splice xs ((s :: ss).map (fold A)) ys (by simp)
        have h2 := h.flatMap A.sequence (k := fun t => t.spliced.map (fold A)) (s :: ss) xs ys
          fun t ht => ih _ (List.mem_singleton_self _) t ht
        rw [hs]
        have := h.trans h1 h2
        simpa [splicedAll_eq, List.map_flatMap] using this
      · simpa using h.refl _
    · simpa using h.refl _

theorem fold_compact (h : A.Tolerates r) (ss : List Sentence) :
    r (foldRow A ss) (foldRow A (compact ss)) := by
  unfold compact
  refine Neighbours.merge_keeps (P := fun ts => r (foldRow A ss) (foldRow A ts))
    (fun xs s t u ys hu hr => h.trans hr ?_) ?_
  · simpa [foldRow] using fold_fuse h hu (xs.map (fold A)) (ys.map (fold A))
  · have := h.flatMap A.sequence (k := fun t => t.spliced.map (fold A)) ss [] []
      fun t _ => fold_spliced h t
    simpa [foldRow, splicedAll_eq, List.map_flatMap] using this

/-- An alternative may be replaced by the alternatives that it brings in. -/
theorem foldRow_flattened (h : A.Tolerates r) (ss : List Sentence) (xs ys : List M) :
    r (A.alternatives (xs ++ foldRow A ss :: ys))
      (A.alternatives (xs ++ ((flattened ss).map (foldRow A) ++ ys))) := by
  unfold flattened
  split
  · rename_i alt alts o b
    split_ifs with ho
    · have hs : foldRow A [composite (alt :: alts) o b]
          = A.alternatives ((alt :: alts).map (foldRow A)) := by
        rw [foldRow, List.map_singleton, h.sequence.single, fold_composite, eq_once_of_isOnce ho,
          h.once]
      rw [hs]
      exact h.alternatives.splice xs _ ys (by simp)
    · exact h.refl _
  · exact h.refl _

theorem fold_flatten (h : A.Tolerates r) (alts : List (List Sentence)) :
    r (A.alternatives (alts.map (foldRow A)))
      (A.alternatives ((flatten alts).map (foldRow A))) := by
  unfold flatten
  split_ifs
  · have := h.flatMap A.alternatives (k := fun ss => (flattened ss).map (foldRow A)) alts
      [] [] fun ss _ => foldRow_flattened h ss
    simpa [List.map_flatMap] using this
  · exact h.refl _

theorem fold_occurring (h : A.Tolerates r) {s : Sentence} (hs : s.occurrence = .once)
    (o : Occurrence) : (s.occurring o).fold A = A.occurring o (s.fold A) := by
  cases s with
  | basic p o' b =>
    rw [occurring, fold_basic, fold_basic, show o' = .once from hs, h.once]
  | composite alts o' b =>
    rw [occurring, fold_composite, fold_composite, show o' = .once from hs, h.once]

theorem fold_collapse (h : A.Tolerates r) (alts : List (List Sentence)) (o : Occurrence) :
    (collapse alts o).fold A = A.occurring o (A.alternatives (alts.map (foldRow A))) := by
  unfold collapse
  split
  · rename_i s
    have hs : A.alternatives ([[s]].map (foldRow A)) = s.fold A := by
      rw [List.map_singleton, h.alternatives.single, foldRow, List.map_singleton,
        h.sequence.single]
    split_ifs with ho hso
    · rw [hs, eq_once_of_isOnce ho, h.once]
    · rw [hs, fold_occurring h (eq_once_of_isOnce hso)]
    · rw [fold_composite]
  · rw [fold_composite]

/-- Simplification takes a sentence to one of a related value. -/
theorem fold_simplify (h : A.Tolerates r) : ∀ s : Sentence, r (s.fold A) (s.simplify.fold A) := by
  refine induction (fun p o b => ?_) fun alts o b ih => ?_
  · unfold simplify
    split_ifs
    · exact h.refl _
    · rw [fold_basic, fold_basic]
      exact h.occurring o _ _ (simplify_phrase h p)
  · unfold simplify
    split_ifs
    · exact h.refl _
    · rw [fold_composite, fold_collapse h, simplifyAlternatives_eq]
      have hss : ∀ ss ∈ alts, r (foldRow A ss) (foldRow A (compact (ss.map simplify))) := by
        intro ss hss
        refine h.trans ?_ (fold_compact h _)
        rw [foldRow, foldRow, List.map_map]
        exact h.map h.sequence (ih ss hss)
      have h1 := h.map h.alternatives hss
      have h2 := fold_flatten h (alts.map fun ss => compact (ss.map simplify))
      rw [List.map_map] at h2
      exact h.occurring o _ _ (h.trans h1 h2)

end Simplify

end Sentence

end CorpusQuery
