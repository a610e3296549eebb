import CorpusQuery.Proofs.Canonical

/-!
# De Morgan's law on predicates

The dual of a predicate gathers the same atoms on the other sides, as each child is absorbed by the
mirror image of the rule that absorbs it in the predicate (`Gathered.absorb_mirrors`), and the
canonical form puts them back where they were (`Canonical.ofAtoms_dual`). So a predicate and its
dual have one plan, unless there is nothing to exchange: an empty predicate holds of every token
before its negation, and so does its dual (`Predicate.toPlan_dual_iff`).
-/

namespace CorpusQuery.Predicate

namespace Canonical

/-- The complement of a canonical predicate. -/
def negate (k : Canonical) : Canonical :=
  { k with negated := !k.negated }

theorem ofAtoms_negate (f : String) (c : Combinator) (n : Bool) (pos neg : List Plan) :
    ofAtoms f c (!n) pos neg = (ofAtoms f c n pos neg).negate := by
  unfold ofAtoms
  split <;> rfl

/-- Atoms that change sides under the other combinator and sign have the same canonical form. -/
theorem ofAtoms_dual (f : String) (c : Combinator) (n : Bool) {pos neg : List Plan}
    (h : ¬ (pos = [] ∧ neg = [])) : ofAtoms f c.dual (!n) neg pos = ofAtoms f c n pos neg := by
  match pos, neg, c with
  | [], [], _ => exact absurd ⟨rfl, rfl⟩ h
  | p :: pos, [], c => simp [ofAtoms]
  | [], q :: neg, c => rfl
  | p :: pos, q :: neg, .and => simp [ofAtoms, Combinator.dual]
  | p :: pos, q :: neg, .or => rfl

end Canonical

namespace Gathered

/-- The same atoms on the other sides. -/
def Mirrors (a b : Gathered) : Prop :=
  b.positive = a.negative ∧ b.negative = a.positive

variable {a b : Gathered}

theorem take_mirrors (h : a.Mirrors b) (n : Bool) (pos neg : List Plan) :
    (a.take n pos neg).Mirrors (b.take (!n) pos neg) := by
  obtain ⟨hp, hn⟩ := h
  cases n with
  | false => exact ⟨congrArg (· ++ neg) hp, congrArg (· ++ pos) hn⟩
  | true => exact ⟨congrArg (· ++ pos) hp, congrArg (· ++ neg) hn⟩

theorem agrees_dual (c d : Combinator) (n : Bool) :
    ((d != c.dual) == !n) = ((d != c) == n) := by
  cases c <;> cases d <;> cases n <;> rfl

/-- A child that is left out of a conjunction marks its complement in a disjunction, and the other
way round; the rules that take atoms over are their own mirror images. -/
theorem absorb_mirrors (h : a.Mirrors b) (c : Combinator) (k : Canonical) :
    (a.absorb c k).Mirrors (b.absorb c.dual k.negate) := by
  have htake : (a.take k.negated k.positive k.negative).Mirrors
      (b.take k.negate.negated k.negate.positive k.negate.negative) :=
    take_mirrors h k.negated k.positive k.negative
  have hcore : (a.take k.negated [k.core] []).Mirrors
      (b.take k.negate.negated [k.negate.core] []) :=
    take_mirrors h k.negated [k.core] []
  have hempty : k.negate.isEmpty = k.isEmpty := rfl
  have hsingle : k.negate.isSingle = k.isSingle := rfl
  have hagrees : ((k.negate.combinator != c.dual) == k.negate.negated)
      = ((k.combinator != c) == k.negated) := agrees_dual c k.combinator k.negated
  unfold absorb
  rw [hempty, hsingle, hagrees]
  cases he : k.isEmpty with
  | false =>
    rw [Bool.false_and, Bool.false_and, Bool.false_and, Bool.false_and]
    simp only [Bool.false_eq_true, if_false]
    split
    · exact htake
    · exact hcore
  | true =>
    -- a child without atoms is left out on one of the two sides of each pair, or becomes an atom
    have hs : k.isSingle = false := by simp [Canonical.isSingle, k.isEmpty_iff.1 he]
    rw [hs]
    cases c <;> cases hn : k.negated <;>
      simp only [hn, Canonical.negate, Combinator.dual] at hcore ⊢
    · exact h
    · exact hcore
    · exact hcore
    · exact h

theorem foldl_mirrors (c : Combinator) : ∀ (ks : List Canonical) {a b : Gathered}, a.Mirrors b →
    (ks.foldl (absorb c) a).Mirrors ((ks.map Canonical.negate).foldl (absorb c.dual) b)
  | [], _, _, h => h
  | k :: ks, _, _, h => foldl_mirrors c ks (absorb_mirrors h c k)

/-- Atoms on the other sides are brought back to where they were. -/
theorem finish_mirrors (h : a.Mirrors b) (f : String) (c : Combinator) (n : Bool)
    (ha : a.HasAtom) : b.finish f c.dual (!n) = a.finish f c n := by
  have hb : b.HasAtom := by
    unfold HasAtom
    rw [h.1, h.2]
    exact fun ⟨hn, hp⟩ => ha ⟨hp, hn⟩
  rw [ha.finish, hb.finish, h.1, h.2, Canonical.ofAtoms_dual f c n ha]

/-- Left without atoms, a disjunction of children that hold of no token has the plan of a negated
conjunction of children that hold of every token. -/
theorem finish_vacuous (h : a.Mirrors b) (f : String) (n : Bool)
    (ha : a.positive = [] ∧ a.negative = []) (hav : a.vacuous = true) (hbv : b.vacuous = false) :
    (b.finish f .and (!n)).toPlan = (a.finish f .or n).toPlan := by
  obtain ⟨pos, neg, v⟩ := a
  obtain ⟨pos', neg', v'⟩ := b
  obtain ⟨rfl, rfl⟩ := ha
  obtain ⟨rfl, rfl⟩ := h
  obtain rfl := hav
  obtain rfl := hbv
  cases n <;> rfl

end Gathered

theorem canonical_negate (w : Predicate) : w.negate.canonical = w.canonical.negate := by
  obtain ⟨f, c, n, pos, neg, kids⟩ := w
  rw [negate, canonical_eq, canonical_eq]
  unfold Gathered.finish
  split <;> exact Canonical.ofAtoms_negate _ _ _ _ _

@[simp] theorem negate_negate (w : Predicate) : w.negate.negate = w := by
  cases w
  simp [negate]

@[simp] theorem dual_dual (w : Predicate) : w.dual.dual = w := by
  cases w
  simp [dual, Function.comp_def]

@[simp] theorem isEmpty_dual (w : Predicate) : w.dual.isEmpty = w.isEmpty := by
  simp [dual, isEmpty, Bool.and_comm w.negative.isEmpty]

theorem canonical_dual (f : String) (c : Combinator) (n : Bool) (pos neg : List Plan)
    (kids : List Predicate) :
    (Predicate.mk f c n pos neg kids).dual.canonical
      = (((kids.map canonical).map Canonical.negate).foldl (Gathered.absorb c.dual)
          ⟨neg, pos, false⟩).finish f c.dual (!n) := by
  rw [dual, canonical_eq, List.map_map, List.map_map]
  congr 3
  exact funext canonical_negate

theorem toPlan_dual_or {w : Predicate} (hc : w.combinator = .or) (he : w.isEmpty = false) :
    w.dual.toPlan = w.toPlan := by
  obtain ⟨f, c, n, pos, neg, kids⟩ := w
  obtain rfl : c = .or := hc
  rw [toPlan, toPlan, canonical_dual, canonical_eq]
  have hm : (Gathered.mk pos neg false).Mirrors ⟨neg, pos, false⟩ := ⟨rfl, rfl⟩
  have hm := Gathered.foldl_mirrors .or (kids.map canonical) hm
  have hb : (((kids.map canonical).map Canonical.negate).foldl (Gathered.absorb .and)
      ⟨neg, pos, false⟩).vacuous = false := Gathered.foldl_and_vacuous _ _
  have ha : ((kids.map canonical).foldl (Gathered.absorb .or) ⟨pos, neg, false⟩).bare = false := by
    cases kids with
    | nil => simpa [Gathered.bare, isEmpty] using he
    | cons k kids => exact Gathered.foldl_or_bare _ (canonicals_proper (k :: kids)) (by simp)
  generalize (kids.map canonical).foldl (Gathered.absorb .or) ⟨pos, neg, false⟩ = a at hm ha ⊢
  by_cases hnil : a.positive = [] ∧ a.negative = []
  · have hv : a.vacuous = true := by simpa [Gathered.bare, hnil] using ha
    exact Gathered.finish_vacuous hm f n hnil hv hb
  · rw [Gathered.finish_mirrors hm f .or n hnil]

/-- A predicate and its dual have the same plan, node for node, unless they are empty. -/
theorem toPlan_dual_iff (w : Predicate) : w.dual.toPlan = w.toPlan ↔ w.isEmpty = false := by
  constructor
  · intro h
    rw [Bool.eq_false_iff]
    intro he
    obtain ⟨f, c, n, pos, neg, kids⟩ := w
    obtain ⟨⟨rfl, rfl⟩, rfl⟩ : (pos = [] ∧ neg = []) ∧ kids = [] := by simpa [isEmpty] using he
    cases n <;> nomatch h
  · intro he
    cases hc : w.combinator with
    | or => exact toPlan_dual_or hc he
    | and =>
      have hd : w.dual.combinator = .or := congrArg Combinator.dual hc
      have h := toPlan_dual_or hd ((isEmpty_dual w).trans he)
      rw [dual_dual] at h
      exact h.symm

end CorpusQuery.Predicate
