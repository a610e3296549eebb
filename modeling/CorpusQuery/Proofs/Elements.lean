import CorpusQuery.Proofs.Simplification
import CorpusQuery.Proofs.Merging

/-!
# The elements of a sentence

The elements of all its phrases, in the order they are read (`Sentence.elements`). Simplification
asks for nothing that is not there already, and for no more of it at the least
(`Sentence.elements_simplify`).
-/

namespace CorpusQuery.Sentence

/-- What the elements of the parts are, one part after the other. -/
def gathering : Algebra (List Element) where
  element e := [e]
  phrase := List.flatten
  sequence := List.flatten
  alternatives := List.flatten
  occurring _ es := es

/-- The elements of all phrases. -/
def elements (s : Sentence) : List Element :=
  s.fold gathering

/-- The sum of the least counts of all elements. -/
def totalLeast (s : Sentence) : ℕ :=
  Element.totalLeast s.elements

theorem elements_basic (p : Phrase) (o : Occurrence) (b : Bool) :
    (basic p o b).elements = p.elements := by
  rw [elements, fold_basic]
  exact List.flatMap_singleton' p.elements

theorem elements_composite (alts : List (List Sentence)) (o : Occurrence) (b : Bool) :
    (composite alts o b).elements = (alts.map fun ss => (ss.map elements).flatten).flatten := by
  rw [elements, fold_composite]
  rfl

theorem mem_elements_composite {alts : List (List Sentence)} {o : Occurrence} {b : Bool}
    {e : Element} : e ∈ (composite alts o b).elements ↔ ∃ ss ∈ alts, ∃ s ∈ ss, e ∈ s.elements := by
  simp [elements_composite]

theorem foldRow_gathering (ss : List Sentence) :
    foldRow gathering ss = (ss.map elements).flatten :=
  rfl

theorem totalLeast_flatten_map {α : Type*} (f : α → List Element) (as : List α) :
    Element.totalLeast (as.map f).flatten = (as.map fun a => Element.totalLeast (f a)).sum := by
  induction as with
  | nil => rfl
  | cons a as ih => simp [ih]

/-- The second row has no content that the first one has not, and adds up to no more. -/
structure Shrinks (es fs : List Element) : Prop where
  content : ∀ f ∈ fs, ∃ e ∈ es, f.content = e.content
  least : Element.totalLeast fs ≤ Element.totalLeast es

theorem Shrinks.refl (es : List Element) : Shrinks es es :=
  ⟨fun e he => ⟨e, he, rfl⟩, le_rfl⟩

theorem Shrinks.trans {es fs gs : List Element} (h : Shrinks es fs) (h' : Shrinks fs gs) :
    Shrinks es gs := by
  refine ⟨fun g hg => ?_, h'.least.trans h.least⟩
  obtain ⟨f, hf, hgf⟩ := h'.content g hg
  obtain ⟨e, he, hfe⟩ := h.content f hf
  exact ⟨e, he, hgf.trans hfe⟩

/-- A part of a row may shrink. -/
theorem Shrinks.append (xs ys : List Element) {es fs : List Element} (h : Shrinks es fs) :
    Shrinks (xs ++ (es ++ ys)) (xs ++ (fs ++ ys)) := by
  constructor
  · intro f hf
    simp only [List.mem_append] at hf
    rcases hf with hf | hf | hf
    · exact ⟨f, by simp [hf], rfl⟩
    · obtain ⟨e, he, hfe⟩ := h.content f hf
      exact ⟨e, by simp [he], hfe⟩
    · exact ⟨f, by simp [hf], rfl⟩
  · have := h.least
    simp only [Element.totalLeast_append]
    omega

theorem shrinks_merge {a b c : Element} (h : Element.merge a b = some c) :
    Shrinks [a, b] [c] := by
  obtain ⟨hc, -, ho⟩ := Element.merge_eq_some h
  constructor
  · intro f hf
    obtain rfl := List.mem_singleton.1 hf
    exact ⟨a, List.mem_cons_self, hc⟩
  · have := Occurrence.least_merge_le ho
    simpa using this

theorem flat_flatten {α : Type*} {r : List α → List α → Prop} (hr : ∀ as, r as as)
    (h : ∀ xs ys as bs, r as bs → r (xs ++ (as ++ ys)) (xs ++ (bs ++ ys))) :
    Flat r List.flatten where
  congr xs m n ys hmn := by
    simpa using h xs.flatten ys.flatten m n hmn
  single := by simp
  splice xs ys zs _ := by
    simpa using hr _

theorem gathering_tolerates : gathering.Tolerates Shrinks where
  refl := Shrinks.refl
  trans := Shrinks.trans
  occurring _ _ _ h := h
  once _ := rfl
  merge xs a b c ys hc := by
    simpa [gathering] using (shrinks_merge hc).append xs.flatten ys.flatten
  fuse xs es fs ys _ _ := by
    simpa [gathering] using Shrinks.refl _
  sequence := flat_flatten Shrinks.refl fun xs ys _ _ => Shrinks.append xs ys
  alternatives := flat_flatten Shrinks.refl fun xs ys _ _ => Shrinks.append xs ys

/-- Simplification merges elements of equal content and adds none. -/
theorem elements_simplify (s : Sentence) : Shrinks s.elements s.simplify.elements :=
  fold_simplify gathering_tolerates s

/-! ## Least counts -/

/-- The sum of the least counts of a row. -/
def rowLeast (ss : List Sentence) : ℕ :=
  (ss.map totalLeast).sum

theorem totalLeast_flatten (ss : List Sentence) :
    Element.totalLeast (ss.map elements).flatten = rowLeast ss :=
  totalLeast_flatten_map elements ss

theorem totalLeast_alternatives (alts : List (List Sentence)) :
    Element.totalLeast (alts.map (foldRow gathering)).flatten = (alts.map rowLeast).sum := by
  rw [totalLeast_flatten_map]
  exact congrArg List.sum (List.map_congr_left fun ss _ => totalLeast_flatten ss)

theorem totalLeast_composite (alts : List (List Sentence)) (o : Occurrence) (b : Bool) :
    (composite alts o b).totalLeast = (alts.map rowLeast).sum := by
  rw [← totalLeast_alternatives, totalLeast, elements, fold_composite]
  rfl

theorem totalLeast_fuse {s t u : Sentence} (h : fuse s t = some u) :
    u.totalLeast ≤ s.totalLeast + t.totalLeast := by
  have h' : Element.totalLeast [u.elements].flatten
      ≤ Element.totalLeast [s.elements, t.elements].flatten :=
    (fold_fuse gathering_tolerates h [] []).least
  simpa [totalLeast] using h'

theorem rowLeast_spliced (s : Sentence) : rowLeast s.spliced ≤ s.totalLeast := by
  have h : Element.totalLeast (s.spliced.map elements ++ []).flatten
      ≤ Element.totalLeast [s.elements].flatten :=
    (fold_spliced gathering_tolerates s [] []).least
  rw [List.append_nil, totalLeast_flatten] at h
  simpa [totalLeast] using h

theorem rowLeast_splicedAll (ss : List Sentence) : rowLeast (splicedAll ss) ≤ rowLeast ss := by
  induction ss with
  | nil => exact le_rfl
  | cons s ss ih =>
    have hs := rowLeast_spliced s
    simp only [rowLeast, splicedAll, List.map_append, List.sum_append, List.map_cons,
      List.sum_cons] at hs ih ⊢
    omega

theorem rowLeast_compact (ss : List Sentence) : rowLeast (compact ss) ≤ rowLeast ss := by
  have h := (fold_compact gathering_tolerates ss).least
  rwa [foldRow_gathering, foldRow_gathering, totalLeast_flatten, totalLeast_flatten] at h

theorem sum_rowLeast_flatten (alts : List (List Sentence)) :
    ((flatten alts).map rowLeast).sum ≤ (alts.map rowLeast).sum := by
  have h : Element.totalLeast ((flatten alts).map (foldRow gathering)).flatten
      ≤ Element.totalLeast (alts.map (foldRow gathering)).flatten :=
    (fold_flatten gathering_tolerates alts).least
  rwa [totalLeast_alternatives, totalLeast_alternatives] at h

theorem totalLeast_collapse (alts : List (List Sentence)) (o : Occurrence) :
    (collapse alts o).totalLeast = (alts.map rowLeast).sum := by
  rw [← totalLeast_alternatives]
  exact congrArg Element.totalLeast (fold_collapse gathering_tolerates alts o)

end CorpusQuery.Sentence
