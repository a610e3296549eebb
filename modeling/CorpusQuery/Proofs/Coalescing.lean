import CorpusQuery.Proofs.Assembly
import CorpusQuery.Proofs.Counting

/-!
# When a phrase is coalesced

A simplified phrase takes the pass up where it ended, so what is fused into it might as well have
been there from the start (`Phrase.simplify_fuse`). The elements that are added may have been passed
over before, as merging neighbours is associative while the least counts add up to no more than the
largest count (`Phrase.coalesce_append_coalesce`). So it does not matter whether elements are
coalesced before they are put into one phrase or after, and doing it again changes nothing
(`Phrase.coalesce_anytime`).
-/

namespace CorpusQuery.Phrase

open Element (totalLeast)

theorem coalesce_coalesce (es : List Element) : coalesce (coalesce es) = coalesce es :=
  Neighbours.merge_merge Element.merge_steady es

theorem coalesce_append_coalesce {es fs : List Element} (h : totalLeast (es ++ fs) ≤ unbounded) :
    coalesce (es ++ coalesce fs) = coalesce (es ++ fs) :=
  Element.merge_associates.merge_append_merge h

theorem simplify_fuse (es : List Element) (q : Phrase) :
    (simplify ⟨es, false⟩).fuse q = ⟨coalesce (es ++ q.elements), true⟩ :=
  congrArg (Phrase.mk · true) (Neighbours.merge_append es q.elements).symm

theorem merge_simplify (es : List Element) (q : Phrase) :
    ∃ p, merge ⟨es, false⟩ q = .ok p ∧ p.simplify = ⟨coalesce (es ++ q.elements), true⟩ :=
  ⟨_, rfl, rfl⟩

/-- The elements of two phrases are coalesced to the same list whether that is done to both at once,
to the second one first and then to the phrase that they are merged into, or to the first one and
then from where the second one, coalesced or not, is fused into it. -/
theorem coalesce_anytime (es fs : List Element) :
    coalesce (coalesce es) = coalesce es ∧
      (totalLeast (es ++ fs) ≤ unbounded →
        (∃ p, merge ⟨es, false⟩ (simplify ⟨fs, false⟩) = .ok p ∧
          p.simplify.elements = coalesce (es ++ fs)) ∧
        ((simplify ⟨es, false⟩).fuse ⟨fs, false⟩).elements = coalesce (es ++ fs) ∧
        ((simplify ⟨es, false⟩).fuse (simplify ⟨fs, false⟩)).elements = coalesce (es ++ fs)) := by
  refine ⟨coalesce_coalesce es, fun h => ?_⟩
  have hs : (simplify ⟨fs, false⟩).elements = coalesce fs := rfl
  refine ⟨?_, ?_, ?_⟩
  · obtain ⟨p, hp, hps⟩ := merge_simplify es (simplify ⟨fs, false⟩)
    refine ⟨p, hp, ?_⟩
    rw [hps, hs]
    exact coalesce_append_coalesce h
  · rw [simplify_fuse]
  · rw [simplify_fuse, hs]
    exact coalesce_append_coalesce h

/-- A name as often as each of these says. -/
def names (os : List Occurrence) : List Element :=
  os.map fun o => ⟨.group (.named "text" "name" .full), o⟩

-- a gap in what an occurrence allows keeps neighbours apart on both sides
theorem coalesce_anytime_names :
    let es := names [.once, Chain.placesThenName.pending.withOptional true, .anyNumber]
    let fs := names [.once, .atMostOnce, .anyNumber]
    totalLeast (es ++ fs) ≤ unbounded ∧
      (∃ p, merge ⟨es, false⟩ (simplify ⟨fs, false⟩) = .ok p ∧
        p.simplify.elements = coalesce (es ++ fs)) ∧
      ((simplify ⟨es, false⟩).fuse ⟨fs, false⟩).elements = coalesce (es ++ fs) ∧
      ((simplify ⟨es, false⟩).fuse (simplify ⟨fs, false⟩)).elements = coalesce (es ++ fs) :=
  have h : totalLeast _ ≤ unbounded := by decide
  ⟨h, (coalesce_anytime _ _).2 h⟩

end CorpusQuery.Phrase
