import CorpusQuery.Compiler
import CorpusQuery.Proofs.Compositionality

/-!
# Joining associates

Two sentences that are joined, and joined as a whole to a third, are assembled to another tree than
the first joined to the other two: which of them are put into one phrase, which are grouped and
which take the others in depends on where the chain is cut. But the normal form of a chain is that
of all its sentences in one row (`Chain.assemble_joinable`), so both compile to the same plan
(`Compiler.compileChain_assoc`).
-/

namespace CorpusQuery

open Sentence

variable {M : Type*} {A : Algebra M} {r : M → M → Prop}

namespace Sentence

/-- What a join makes of the values that it joins. -/
def Algebra.joined (A : Algebra M) : Join → List M → M
  | .sequence => A.sequence
  | .alternation => A.alternatives

theorem Algebra.Tolerates.joined (h : A.Tolerates r) : ∀ j, Flat r (A.joined j)
  | .sequence => h.sequence
  | .alternation => h.alternatives

theorem least_joined (ms : List NormalForm) :
    ∀ j, (normalForms.joined j ms).least = (ms.map NormalForm.least).sum
  | .sequence => rfl
  | .alternation => rfl

/-- A sentence that can be joined to others: open to edits, and no place in it is empty. -/
structure Joinable (s : Sentence) : Prop where
  reachable : s.Reachable
  unsimplified : s.simplified = false
  filled : s.Filled

/-- Three normal forms may be joined from the left as well as from the right. -/
theorem joined_assoc {j : Join} {x y z xy s t : NormalForm}
    (hxy : NormalForm.Agrees (normalForms.joined j [x, y]) xy)
    (hs : NormalForm.Agrees (normalForms.joined j [xy, z]) s)
    (ht : NormalForm.Agrees (normalForms.joined j [x, normalForms.joined j [y, z]]) t)
    (hl : x.least + y.least + z.least ≤ unbounded) : s.sentence = t.sentence := by
  have hflat := normalForms_tolerates.joined j
  have hs' : NormalForm.Agrees (normalForms.joined j [normalForms.joined j [x, y], z]) s :=
    normalForms_tolerates.trans (hflat.congr [] _ _ [z] hxy) hs
  have hleft : (normalForms.joined j [normalForms.joined j [x, y], z]).least ≤ unbounded := by
    simpa [least_joined, Nat.add_assoc] using hl
  have hright : (normalForms.joined j [x, normalForms.joined j [y, z]]).least ≤ unbounded := by
    simpa [least_joined, Nat.add_assoc] using hl
  calc s.sentence = (normalForms.joined j [normalForms.joined j [x, y], z]).sentence :=
        (hs' hleft).1
    _ = (normalForms.joined j [x, y, z]).sentence :=
        (hflat.splice [] [x, y] [z] (List.cons_ne_nil x [y]) hleft).1.symm
    _ = (normalForms.joined j [x, normalForms.joined j [y, z]]).sentence :=
        (hflat.splice [x] [y, z] [] (List.cons_ne_nil y [z]) hright).1
    _ = t.sentence := (ht hright).1.symm

end Sentence

namespace Chain

theorem sentences_ofSentence (s : Sentence) : (ofSentence s).sentences = [s] :=
  rfl

theorem sentences_withRest (s : Sentence) (j : Join) (d : Chain) :
    ((ofSentence s).withRest j d).sentences = s :: d.sentences :=
  rfl

theorem fold_ofSentence (h : A.Tolerates r) (s : Sentence) : (ofSentence s).fold A = s.fold A :=
  h.once _

theorem fold_withRest (h : A.Tolerates r) (s : Sentence) (j : Join) (d : Chain) :
    ((ofSentence s).withRest j d).fold A = A.joined j [s.fold A, d.fold A] := by
  have ho : A.occurring .once (s.fold A) = s.fold A := h.once _
  cases j with
  | sequence => exact congrArg (fun m => A.sequence [m, d.fold A]) ho
  | alternation => exact congrArg (fun m => A.alternatives [m, d.fold A]) ho

/-- Sentences that can be joined are assembled to one that can be joined in turn, of the normal form
of the chain. -/
theorem assemble_joinable (c : Chain) (hc : ∀ s ∈ c.sentences, s.Joinable) :
    ∃ s, c.assemble = .ok s ∧ s.Joinable ∧
      NormalForm.Agrees (c.fold normalForms) (s.fold normalForms) := by
  obtain ⟨s, hs, hu, hf, hr⟩ :=
    assemble_fold normalForms_tolerates c fun t ht => ⟨(hc t ht).unsimplified, (hc t ht).filled⟩
  exact ⟨s, hs, ⟨.assemble (fun t ht => (hc t ht).reachable) hs, hu, hf⟩, hr⟩

end Chain

namespace Compiler

theorem exists_compile (k : Compiler) {s : Sentence} (h : s.Filled) :
    ∃ p, k.compile s = .ok p := by
  have hp := toPlan_language k.ignore s.simplify
  rw [vacancy_simplify, vacancy_eq_none.2 h] at hp
  obtain ⟨-, p, hp, -⟩ | ⟨v, hv, -⟩ := ok_or_error hp
  · exact ⟨p, hp⟩
  · cases hv

/-- Two sentences joined and then joined to a third have the plan of the first joined to the other
two, if the least counts of their elements add up to no more than the largest count. -/
theorem compileChain_assoc (k : Compiler) (j : Join) {a b c : Sentence} (ha : a.Joinable)
    (hb : b.Joinable) (hc : c.Joinable)
    (hl : a.totalLeast + b.totalLeast + c.totalLeast ≤ unbounded) :
    ∃ ab p, ((Chain.ofSentence a).withRest j (.ofSentence b)).assemble = .ok ab ∧
      k.compileChain ((Chain.ofSentence ab).withRest j (.ofSentence c)) = .ok p ∧
      k.compileChain ((Chain.ofSentence a).withRest j
        ((Chain.ofSentence b).withRest j (.ofSentence c))) = .ok p := by
  have h := normalForms_tolerates
  obtain ⟨ab, hab, hjab, hgab⟩ := Chain.assemble_joinable
    ((Chain.ofSentence a).withRest j (.ofSentence b))
    (by simpa [Chain.sentences_withRest, Chain.sentences_ofSentence] using ⟨ha, hb⟩)
  obtain ⟨s, hs, hjs, hgs⟩ := Chain.assemble_joinable
    ((Chain.ofSentence ab).withRest j (.ofSentence c))
    (by simpa [Chain.sentences_withRest, Chain.sentences_ofSentence] using ⟨hjab, hc⟩)
  obtain ⟨t, ht, hjt, hgt⟩ := Chain.assemble_joinable
    ((Chain.ofSentence a).withRest j ((Chain.ofSentence b).withRest j (.ofSentence c)))
    (by simpa [Chain.sentences_withRest, Chain.sentences_ofSentence] using ⟨ha, hb, hc⟩)
  simp only [Chain.fold_withRest h, Chain.fold_ofSentence h] at hgab hgs hgt
  have hst : s.simplify = t.simplify := by
    rw [← fold_normalForms hjs.reachable.tidy, ← fold_normalForms hjt.reachable.tidy]
    exact joined_assoc hgab hgs hgt (by simpa only [fold_least] using hl)
  obtain ⟨p, hp⟩ := k.exists_compile hjs.filled
  have hq : k.compile t = .ok p := by
    rw [compile, ← hst]
    exact hp
  refine ⟨ab, p, hab, ?_, ?_⟩
  · rw [compileChain, hs]
    exact hp
  · rw [compileChain, ht]
    exact hq

/-- A name or a place. -/
def nameOrPlace : Sentence :=
  Chain.placesThenName.first

theorem compileChain_assoc_names :
    repeatedName.Joinable ∧ nameOrPlace.Joinable ∧
      repeatedName.totalLeast + nameOrPlace.totalLeast + repeatedName.totalLeast ≤ unbounded ∧
      ∃ ab p, ((Chain.ofSentence repeatedName).withRest .sequence
          (.ofSentence nameOrPlace)).assemble = .ok ab ∧
        compileChain {} ((Chain.ofSentence ab).withRest .sequence (.ofSentence repeatedName))
          = .ok p ∧
        compileChain {} ((Chain.ofSentence repeatedName).withRest .sequence
          ((Chain.ofSentence nameOrPlace).withRest .sequence (.ofSentence repeatedName)))
          = .ok p := by
  have hjn : repeatedName.Joinable := ⟨reachable_of_cleared rfl, rfl, by decide⟩
  have hjp : nameOrPlace.Joinable := ⟨reachable_of_cleared rfl, rfl, by decide⟩
  have hl : repeatedName.totalLeast + nameOrPlace.totalLeast + repeatedName.totalLeast
      ≤ unbounded := by decide
  exact ⟨hjn, hjp, hl, compileChain_assoc {} .sequence hjn hjp hjn hl⟩

end Compiler

end CorpusQuery
