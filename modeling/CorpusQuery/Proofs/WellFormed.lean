import CorpusQuery.Compiler
import CorpusQuery.Proofs.Canonical
import CorpusQuery.Proofs.Elements

/-!
# Plans are well formed

A well formed plan has no node that stands for nothing or for its only clause (`Plan.WellFormed`): a
recurrence has bounds in their order and may turn twice, a sequence of one item is there because the
item is optional, and a connective has several clauses. Each layer keeps to this: a canonical
predicate has an atom where its shape has room for one, an occurrence starts at one, and an item
that is optional is put in a sequence only when it becomes a plan. So whatever is lowered from
leaves is well formed, simplified or not (`Sentence.toPlan_wellFormed`).
-/

namespace CorpusQuery

open Plan (Item Ignore)

/-- Every node of the plan is needed, and what sequences and recurrences ignore is `g`, which is not
looked into as it comes from outside. -/
inductive Plan.WellFormed (g : Option Ignore) : Plan → Prop
  | leaf {p} (h : p.isLeaf = true) : WellFormed g p
  | allOf {ps} (several : 2 ≤ ps.length) (clauses : ∀ p ∈ ps, WellFormed g p) :
      WellFormed g (.allOf ps)
  | anyOf {ps} (several : 2 ≤ ps.length) (clauses : ∀ p ∈ ps, WellFormed g p) :
      WellFormed g (.anyOf ps)
  | without {p q} (base : WellFormed g p) (exclude : WellFormed g q) : WellFormed g (.without p q)
  | sequence {is} (some : is ≠ []) (single : ∀ i, is = [i] → i.optional = true)
      (items : ∀ i ∈ is, WellFormed g i.plan) : WellFormed g (.sequence is g)
  | recurrence {p lo hi} (one_le : 1 ≤ lo.toNat) (ordered : lo.toNat ≤ hi.toNat)
      (two_le : 2 ≤ hi.toNat) (turn : WellFormed g p) : WellFormed g (.recurrence p lo hi g)
  | startOf {p} (h : WellFormed g p) : WellFormed g (.startOf p)
  | endOf {p} (h : WellFormed g p) : WellFormed g (.endOf p)

variable {g : Option Ignore}

/-! ## Words -/

namespace Plan

theorem wellFormed_combine (c : Combinator) {ps : List Plan} (hne : ps ≠ [])
    (h : ∀ p ∈ ps, p.WellFormed g) : (combine c ps).WellFormed g := by
  match ps with
  | [p] => exact h p (List.mem_singleton_self p)
  | p :: q :: ps =>
    have hl : 2 ≤ (p :: q :: ps).length := by simp
    cases c with
    | and => exact .allOf hl h
    | or => exact .anyOf hl h

end Plan

namespace Predicate

/-- Every atom of the predicate is a leaf. -/
inductive OfLeaves : Predicate → Prop
  | mk {w : Predicate} (positive : ∀ p ∈ w.positive, p.isLeaf = true)
      (negative : ∀ p ∈ w.negative, p.isLeaf = true) (children : ∀ k ∈ w.children, OfLeaves k) :
      OfLeaves w

namespace Canonical

/-- Whether all atoms of the canonical form are well formed. -/
def WellFormed (g : Option Ignore) (k : Canonical) : Prop :=
  ∀ p ∈ k.positive ++ k.negative, p.WellFormed g

theorem mem_ofAtoms {f : String} {c : Combinator} {n : Bool} {pos neg : List Plan} {p : Plan} :
    p ∈ (ofAtoms f c n pos neg).positive ++ (ofAtoms f c n pos neg).negative
      ↔ p ∈ pos ++ neg :=
  (ofAtoms_perm f c n pos neg).mem_iff

theorem wellFormed_core {k : Canonical} (hp : k.Proper) (h : k.WellFormed g) :
    k.core.WellFormed g := by
  obtain ⟨f, c, n, shape⟩ := k
  cases shape with
  | empty => exact .leaf rfl
  | positive ps =>
    refine Plan.wellFormed_combine c hp ?_
    intro p hm
    exact h p (List.mem_append_left _ hm)
  | mixed ps ns =>
    obtain ⟨hps, hns, -⟩ := hp
    refine .without (Plan.wellFormed_combine .and hps ?_) (Plan.wellFormed_combine .or hns ?_)
    · intro p hm
      exact h p (List.mem_append_left _ hm)
    · intro p hm
      exact h p (List.mem_append_right _ hm)

theorem wellFormed_toPlan {k : Canonical} (hp : k.Proper) (h : k.WellFormed g) :
    k.toPlan.WellFormed g := by
  unfold toPlan
  split_ifs
  · exact .without (.leaf rfl) (wellFormed_core hp h)
  · exact wellFormed_core hp h

end Canonical

namespace Gathered

/-- Whether all atoms gathered so far are well formed. -/
def WellFormed (g : Option Ignore) (a : Gathered) : Prop :=
  ∀ p ∈ a.positive ++ a.negative, p.WellFormed g

theorem mem_take {a : Gathered} {n : Bool} {pos neg : List Plan} {p : Plan} :
    p ∈ (a.take n pos neg).positive ++ (a.take n pos neg).negative
      ↔ p ∈ a.positive ++ a.negative ∨ p ∈ pos ++ neg :=
  (take_perm a n pos neg).mem_iff.trans List.mem_append

theorem wellFormed_take {a : Gathered} {n : Bool} {pos neg : List Plan} (ha : a.WellFormed g)
    (h : ∀ p ∈ pos ++ neg, p.WellFormed g) : (a.take n pos neg).WellFormed g := by
  intro p hp
  rcases mem_take.1 hp with hp | hp
  · exact ha p hp
  · exact h p hp

/-- Whether a child's atoms are taken over or the child becomes an atom, all atoms stay well
formed. -/
theorem wellFormed_absorb (c : Combinator) {a : Gathered} {k : Canonical} (ha : a.WellFormed g)
    (hp : k.Proper) (hk : k.WellFormed g) : (a.absorb c k).WellFormed g := by
  rcases absorb_cases c a k with ⟨-, -, -, he⟩ | ⟨-, -, -, he⟩ | ⟨p, hs, he⟩ | ⟨-, -, he⟩ |
    ⟨-, -, he⟩ <;> rw [he]
  · exact ha
  · exact ha
  · refine wellFormed_take ha ?_
    intro q hq
    exact hk q (by simpa [Canonical.positive, Canonical.negative, hs] using hq)
  · exact wellFormed_take ha hk
  · refine wellFormed_take ha ?_
    intro q hq
    obtain rfl : q = k.core := by simpa using hq
    exact Canonical.wellFormed_core hp hk

theorem wellFormed_foldl (c : Combinator) : ∀ {ks : List Canonical},
    (∀ k ∈ ks, k.Proper ∧ k.WellFormed g) → ∀ {a : Gathered}, a.WellFormed g →
    (ks.foldl (absorb c) a).WellFormed g
  | [], _, _, ha => ha
  | k :: ks, h, a, ha => by
    obtain ⟨⟨hp, hk⟩, hks⟩ := List.forall_mem_cons.1 h
    exact wellFormed_foldl c hks (wellFormed_absorb c ha hp hk)

theorem wellFormed_finish {a : Gathered} (f : String) (c : Combinator) (n : Bool)
    (ha : a.WellFormed g) : (a.finish f c n).WellFormed g := by
  unfold finish
  split_ifs
  · intro p hp
    obtain rfl : p = .everything f := by simpa using Canonical.mem_ofAtoms.1 hp
    exact .leaf rfl
  · intro p hp
    exact ha p (Canonical.mem_ofAtoms.1 hp)

end Gathered

theorem wellFormed_canonical {w : Predicate} (h : w.OfLeaves) : w.canonical.WellFormed g := by
  induction h with
  | @mk w positive negative children ih =>
    obtain ⟨f, c, n, pos, neg, kids⟩ := w
    rw [canonical_eq]
    refine Gathered.wellFormed_finish f c n (Gathered.wellFormed_foldl c ?_ ?_)
    · intro k hk
      obtain ⟨w, hw, rfl⟩ := List.mem_map.1 hk
      exact ⟨w.canonical_proper, ih w hw⟩
    · intro p hp
      rcases List.mem_append.1 hp with hp | hp
      · exact .leaf (positive p hp)
      · exact .leaf (negative p hp)

end Predicate

/-! ## Elements -/

/-- The content comes from a predicate of leaves, or is a group of spans of a leaf. -/
def Content.OfLeaves : Content → Prop
  | .word k => ∃ w : Predicate, w.OfLeaves ∧ w.canonical = k
  | .group g => g.inner.isLeaf = true

theorem Content.wellFormed_toPlan {c : Content} (h : c.OfLeaves) : c.toPlan.WellFormed g := by
  match c with
  | .word k =>
    obtain ⟨w, hw, rfl⟩ := h
    exact Predicate.Canonical.wellFormed_toPlan w.canonical_proper
      (Predicate.wellFormed_canonical hw)
  | .group ⟨p, .full⟩ => exact .leaf h
  | .group ⟨p, .start⟩ => exact .startOf (.leaf h)
  | .group ⟨p, .finish⟩ => exact .endOf (.leaf h)

namespace Plan.Item

theorem wellFormed_toPlan {i : Item} (h : i.plan.WellFormed g) : (i.toPlan g).WellFormed g := by
  unfold toPlan
  split_ifs with ho
  · refine .sequence (List.cons_ne_nil i []) ?_ (by simpa using h)
    intro j hj
    obtain rfl := List.singleton_inj.1 hj
    exact ho
  · exact h

theorem wellFormed_repeated (o : Occurrence) {i : Item} (h : i.plan.WellFormed g) :
    (i.repeated g o).plan.WellFormed g := by
  have hlo : o.leastWord.toNat = o.least := UInt64.toNat_ofNatLT ..
  have hhi : o.mostWord.toNat = o.most := UInt64.toNat_ofNatLT ..
  unfold repeated
  simp only
  split_ifs with hm
  · refine .recurrence ?_ ?_ ?_ (wellFormed_toPlan h)
    · rw [hlo]
      exact o.one_le_least
    · rw [hlo, hhi]
      exact o.least_le_most
    · rw [hhi]
      exact hm
  · exact h

/-- Several items make a sequence. -/
theorem wellFormed_row {is : List Item} (hl : 2 ≤ is.length)
    (h : ∀ i ∈ is, i.plan.WellFormed g) : (Plan.sequence is g).WellFormed g := by
  refine .sequence ?_ ?_ h
  · rintro rfl
    simp at hl
  · rintro i rfl
    simp at hl

end Plan.Item

theorem Element.wellFormed_lower {e : Element} (h : e.content.OfLeaves) :
    (e.lower g).plan.WellFormed g :=
  Plan.Item.wellFormed_repeated e.occurrence (Content.wellFormed_toPlan h)

/-! ## Sentences -/

namespace Sentence

/-- All content of the sentence comes from leaves. -/
def OfLeaves (s : Sentence) : Prop :=
  ∀ e ∈ s.elements, e.content.OfLeaves

theorem OfLeaves.member {alts : List (List Sentence)} {o : Occurrence} {b : Bool}
    (h : (composite alts o b).OfLeaves) : ∀ ss ∈ alts, ∀ s ∈ ss, s.OfLeaves :=
  fun ss hss s hs e he => h e (mem_elements_composite.2 ⟨ss, hss, s, hs, he⟩)

theorem OfLeaves.simplify {s : Sentence} (h : s.OfLeaves) : s.simplify.OfLeaves := by
  intro f hf
  obtain ⟨e, he, hc⟩ := (elements_simplify s).content f hf
  rw [hc]
  exact h e he

theorem wellFormed_sequenceItem {is : List Item} (h : ∀ i ∈ is, i.plan.WellFormed g) {i : Item}
    (hi : sequenceItem g is = .ok i) : i.plan.WellFormed g := by
  match is with
  | [] => cases hi
  | [j] =>
    cases hi
    exact h i (List.mem_singleton_self i)
  | j :: j' :: js =>
    cases hi
    exact Plan.Item.wellFormed_row (by simp) h

theorem wellFormed_phrase {p : Phrase} (h : ∀ e ∈ p.elements, e.content.OfLeaves) {i : Item}
    (hi : p.lower g = .ok i) : i.plan.WellFormed g := by
  refine wellFormed_sequenceItem ?_ (sequenceItem_of_phrase hi)
  intro j hj
  obtain ⟨e, he, rfl⟩ := List.mem_map.1 hj
  exact Element.wellFormed_lower (h e he)

theorem wellFormed_alternationItem {is : List Item} (h : ∀ i ∈ is, i.plan.WellFormed g) {i : Item}
    (hi : alternationItem g is = .ok i) : i.plan.WellFormed g := by
  match is with
  | [] => cases hi
  | [j] =>
    cases hi
    exact h i (List.mem_singleton_self i)
  | j :: j' :: js =>
    cases hi
    refine .anyOf (by simp) ?_
    intro p hp
    obtain ⟨k, hk, rfl⟩ := List.mem_map.1 hp
    exact Plan.Item.wellFormed_toPlan (h k hk)

mutual

theorem wellFormed_lower : ∀ {s : Sentence}, s.OfLeaves → ∀ {i : Item}, s.lower g = .ok i →
    i.plan.WellFormed g
  | .basic p o b, h, i, hi => by
    have hp : ∀ e ∈ p.elements, e.content.OfLeaves := by
      intro e he
      exact h e (by rwa [elements_basic])
    rw [lower] at hi
    obtain ⟨j, hj, hi⟩ := bind_eq_ok hi
    cases hi
    exact Plan.Item.wellFormed_repeated o (wellFormed_phrase hp hj)
  | .composite alts o b, h, i, hi => by
    rw [lower] at hi
    obtain ⟨is, his, hi⟩ := bind_eq_ok hi
    obtain ⟨j, hj, hi⟩ := bind_eq_ok hi
    cases hi
    have hw := wellFormed_lowerAlternatives h.member his
    exact Plan.Item.wellFormed_repeated o (wellFormed_alternationItem hw hj)

theorem wellFormed_lowerAlternatives : ∀ {alts : List (List Sentence)},
    (∀ ss ∈ alts, ∀ s ∈ ss, s.OfLeaves) → ∀ {is : List Item}, lowerAlternatives g alts = .ok is →
    ∀ i ∈ is, i.plan.WellFormed g
  | [], _, is, his => by
    cases his
    simp
  | ss :: alts, h, is, his => by
    obtain ⟨hss, halts⟩ := List.forall_mem_cons.1 h
    rw [lowerAlternatives] at his
    obtain ⟨js, hjs, his⟩ := bind_eq_ok his
    obtain ⟨j, hj, his⟩ := bind_eq_ok his
    obtain ⟨rest, hrest, his⟩ := bind_eq_ok his
    cases his
    have hw := wellFormed_sequenceItem (wellFormed_lowerSequence hss hjs) hj
    exact List.forall_mem_cons.2 ⟨hw, wellFormed_lowerAlternatives halts hrest⟩

theorem wellFormed_lowerSequence : ∀ {ss : List Sentence}, (∀ s ∈ ss, s.OfLeaves) →
    ∀ {is : List Item}, lowerSequence g ss = .ok is → ∀ i ∈ is, i.plan.WellFormed g
  | [], _, is, his => by
    cases his
    simp
  | s :: ss, h, is, his => by
    obtain ⟨hs, hss⟩ := List.forall_mem_cons.1 h
    rw [lowerSequence] at his
    obtain ⟨i, hi, his⟩ := bind_eq_ok his
    obtain ⟨rest, hrest, his⟩ := bind_eq_ok his
    cases his
    exact List.forall_mem_cons.2 ⟨wellFormed_lower hs hi, wellFormed_lowerSequence hss hrest⟩

end

theorem wellFormed_toPlan {s : Sentence} (h : s.OfLeaves) {p : Plan} (hp : s.toPlan g = .ok p) :
    p.WellFormed g := by
  rw [toPlan] at hp
  obtain ⟨i, hi, hp⟩ := bind_eq_ok hp
  cases hp
  exact Plan.Item.wellFormed_toPlan (wellFormed_lower h hi)

/-- The plans of a sentence whose content comes from leaves are well formed, whether it is
simplified first or not. -/
theorem toPlan_wellFormed {s : Sentence} (h : s.OfLeaves) :
    (∀ (k : Compiler) (p : Plan), k.compile s = .ok p → p.WellFormed k.ignore) ∧
      ∀ (g : Option Ignore) (p : Plan), s.toPlan g = .ok p → p.WellFormed g :=
  ⟨fun _ _ hp => wellFormed_toPlan h.simplify hp, fun _ _ hp => wellFormed_toPlan h hp⟩

/-- Up to three words of two, and then perhaps the start of a name. -/
def wordsThenName : Sentence :=
  .ofPhrase ⟨[.ofWord ⟨"text", .or, false,
      [.term "text" "word" "in", .term "text" "word" "at"], [], []⟩
      { Occurrence.once with
        most := (3 : UInt64).toNat
        least_le_most := by decide
        most_le_unbounded := toNat_le_unbounded 3 },
    .ofGroup (.named "text" "name" .start) .atMostOnce], false⟩

/-- Its plan. -/
def wordsThenNamePlan : Plan :=
  .sequence [⟨.recurrence (.anyOf [.term "text" "word" "in", .term "text" "word" "at"]) 1 3 none,
    false⟩, ⟨.startOf (.annotated "text" "name"), true⟩] none

theorem toPlan_wellFormed_words :
    wordsThenName.OfLeaves ∧ Compiler.compile {} wordsThenName = .ok wordsThenNamePlan ∧
      wordsThenNamePlan.WellFormed none := by
  have h : wordsThenName.OfLeaves := by
    intro e he
    rw [wordsThenName, ofPhrase, elements_basic] at he
    simp only [List.mem_cons, List.not_mem_nil, or_false] at he
    rcases he with rfl | rfl
    · exact ⟨_, .mk (by simp [Plan.isLeaf]) (by simp) (by simp), rfl⟩
    · rfl
  have hp : Compiler.compile {} wordsThenName = .ok wordsThenNamePlan := by rfl
  exact ⟨h, hp, (toPlan_wellFormed h).1 {} wordsThenNamePlan hp⟩

end Sentence

end CorpusQuery
