import CorpusQuery.Predicate.Canonical

/-!
# What absorbing a child can do

Every canonical predicate is proper (`Predicate.canonical_proper`): it never consists of negated
atoms alone, and it mixes signs only under `and`. A step of the absorption does one of five things
(`Gathered.absorb_cases`), and under `or` none of them leaves the gathered atoms bare, so that only
an empty predicate is read as one that holds of every token. The proper predicates are the ones that
the canonical form leaves as they are (`Predicate.Canonical.canonical_toPredicate_iff`), so taking
it once is enough (`Predicate.canonical_fixpoint`).
-/

namespace CorpusQuery

/-- The combinator under which a child of that sign joins its atoms if a parent under `c` may take
them over. -/
def Combinator.under (c : Combinator) (negated : Bool) : Combinator :=
  if negated then c.dual else c

theorem Combinator.eq_under_iff (c d : Combinator) (n : Bool) :
    d = c.under n ↔ ((d != c) == n) = true := by
  cases c <;> cases d <;> cases n <;> decide

namespace Predicate

namespace Canonical

/-- There are atoms where the shape has room for them, and signs are mixed under `and` only. -/
def Proper (k : Canonical) : Prop :=
  match k.shape with
  | .empty => True
  | .positive ps => ps ≠ []
  | .mixed ps ns => ps ≠ [] ∧ ns ≠ [] ∧ k.combinator = .and

theorem ofAtoms_proper (f : String) (c : Combinator) (n : Bool) (pos neg : List Plan) :
    (ofAtoms f c n pos neg).Proper := by
  unfold ofAtoms
  split <;> simp [Proper]

theorem isEmpty_iff (k : Canonical) : k.isEmpty = true ↔ k.shape = .empty := by
  unfold isEmpty
  split <;> simp_all

theorem isSingle_iff (k : Canonical) : k.isSingle = true ↔ ∃ p, k.shape = .positive [p] := by
  unfold isSingle
  split <;> simp_all

/-- Every atom stays, on one side or the other. -/
theorem ofAtoms_perm (f : String) (c : Combinator) (n : Bool) (pos neg : List Plan) :
    ((ofAtoms f c n pos neg).positive ++ (ofAtoms f c n pos neg).negative).Perm (pos ++ neg) := by
  unfold ofAtoms
  split
  · exact .refl _
  · exact .refl _
  · simp [positive, negative]
  · exact .refl _
  · exact List.perm_append_comm

/-- It holds of no token, as the negation of a predicate without atoms. -/
def isVoid (k : Canonical) : Bool :=
  k.isEmpty && k.negated

theorem Proper.positive_ne_nil {k : Canonical} (h : k.Proper) (he : k.shape ≠ .empty) :
    k.positive ≠ [] := by
  unfold Proper at h
  unfold positive
  split at h
  · exact absurd ‹_› he
  · simp [*]
  · simp [*]

end Canonical

theorem canonicals_eq : ∀ ks : List Predicate, canonicals ks = ks.map canonical
  | [] => rfl
  | k :: ks => by rw [canonicals, canonicals_eq ks, List.map_cons]

namespace Gathered

/-- No child was left out and no atom taken over. -/
def bare (a : Gathered) : Bool :=
  !a.vacuous && a.positive.isEmpty && a.negative.isEmpty

theorem finish_proper (a : Gathered) (f : String) (c : Combinator) (n : Bool) :
    (a.finish f c n).Proper := by
  unfold finish
  split <;> exact Canonical.ofAtoms_proper _ _ _ _ _

/-- There is an atom, on either side. -/
def HasAtom (a : Gathered) : Prop :=
  ¬ (a.positive = [] ∧ a.negative = [])

/-- Where an atom was gathered, it does not matter which children were left out. -/
theorem HasAtom.finish {a : Gathered} (h : a.HasAtom) (f : String) (c : Combinator) (n : Bool) :
    a.finish f c n = .ofAtoms f c n a.positive a.negative := by
  refine if_neg fun hv => h ?_
  simp only [Bool.and_eq_true, List.isEmpty_iff] at hv
  exact ⟨hv.1.2, hv.2⟩

theorem finish_of_not_vacuous {a : Gathered} (h : a.vacuous = false) (f : String) (c : Combinator)
    (n : Bool) : a.finish f c n = .ofAtoms f c n a.positive a.negative := by
  unfold finish
  rw [h]
  rfl

/-- What a step can do: a child without atoms is left out where it changes nothing, the atoms of a
single or agreeing child are taken over, and any other child becomes an atom. -/
theorem absorb_cases (c : Combinator) (a : Gathered) (k : Canonical) :
    (k.shape = .empty ∧ c = .or ∧ k.negated = true ∧ a.absorb c k = { a with vacuous := true })
    ∨ (k.shape = .empty ∧ c = .and ∧ k.negated = false ∧ a.absorb c k = a)
    ∨ (∃ p, k.shape = .positive [p] ∧ a.absorb c k = a.take k.negated [p] [])
    ∨ (k.shape ≠ .empty ∧ k.combinator = c.under k.negated
      ∧ a.absorb c k = a.take k.negated k.positive k.negative)
    ∨ ((∀ p, k.shape ≠ .positive [p])
      ∧ (k.shape = .empty ∧ k.negated = (c == .and) ∨
        k.shape ≠ .empty ∧ k.combinator ≠ c.under k.negated)
      ∧ a.absorb c k = a.take k.negated [k.core] []) := by
  by_cases he : k.shape = .empty
  · have hi : k.isEmpty = true := k.isEmpty_iff.2 he
    have hs : k.isSingle = false := by simp [Canonical.isSingle, he]
    cases c <;> cases hn : k.negated <;> simp [absorb, he, hi, hs, hn]
  · have hi : k.isEmpty = false := by simpa [← k.isEmpty_iff] using he
    have hu : a.absorb c k = if k.isSingle || (k.combinator != c) == k.negated then
        a.take k.negated k.positive k.negative else a.take k.negated [k.core] [] := by
      simp [absorb, hi]
    rw [hu]
    by_cases hs : k.isSingle = true
    · obtain ⟨p, hp⟩ := k.isSingle_iff.1 hs
      refine .inr (.inr (.inl ⟨p, hp, ?_⟩))
      simp [hs, Canonical.positive, Canonical.negative, hp]
    · have hp : ∀ p, k.shape ≠ .positive [p] := fun p h => hs (k.isSingle_iff.2 ⟨p, h⟩)
      by_cases hc : k.combinator = c.under k.negated
      · refine .inr (.inr (.inr (.inl ⟨he, hc, ?_⟩)))
        rw [(c.eq_under_iff _ _).1 hc, Bool.or_true, if_pos rfl]
      · refine .inr (.inr (.inr (.inr ⟨hp, .inr ⟨he, hc⟩, ?_⟩)))
        rw [c.eq_under_iff] at hc
        rw [if_neg]
        rw [Bool.or_eq_true]
        exact not_or.2 ⟨hs, hc⟩

theorem take_perm (a : Gathered) (n : Bool) (pos neg : List Plan) :
    ((a.take n pos neg).positive ++ (a.take n pos neg).negative).Perm
      ((a.positive ++ a.negative) ++ (pos ++ neg)) := by
  cases n with
  | false =>
    simp only [take, Bool.false_eq_true, if_false, List.append_assoc]
    exact (List.perm_append_comm_assoc pos a.negative neg).append_left _
  | true =>
    have h : (neg ++ (a.negative ++ pos)).Perm (a.negative ++ (pos ++ neg)) :=
      (List.perm_append_comm_assoc ..).trans (List.perm_append_comm.append_left _)
    simp only [take, if_true, List.append_assoc]
    exact h.append_left _

@[simp] theorem take_vacuous (a : Gathered) (n : Bool) (pos neg : List Plan) :
    (a.take n pos neg).vacuous = a.vacuous := by
  cases n <;> rfl

theorem take_hasAtom (a : Gathered) (n : Bool) {pos neg : List Plan} (h : pos ≠ []) :
    (a.take n pos neg).HasAtom := by
  cases n <;> simp [HasAtom, take, h]

/-- Under `or` each child leaves a trace: an atom, or the mark of one that holds of no token. -/
theorem absorb_or_cases (a : Gathered) {k : Canonical} (h : k.Proper) :
    (k.isVoid = true ∧ a.absorb .or k = { a with vacuous := true }) ∨ (a.absorb .or k).HasAtom := by
  rcases absorb_cases .or a k with ⟨he, -, hn, ha⟩ | ⟨-, hc, -⟩ | ⟨p, -, ha⟩ | ⟨he, -, ha⟩ |
    ⟨-, -, ha⟩
  · exact .inl ⟨by rw [Canonical.isVoid, k.isEmpty_iff.2 he, hn]; rfl, ha⟩
  · nomatch hc
  all_goals
    rw [ha]
    refine .inr (take_hasAtom a _ ?_)
  · simp
  · exact h.positive_ne_nil he
  · simp

theorem HasAtom.bare {a : Gathered} (h : a.HasAtom) : a.bare = false := by
  rw [Bool.eq_false_iff]
  intro hb
  simp only [Gathered.bare, Bool.and_eq_true, List.isEmpty_iff] at hb
  exact h ⟨hb.1.2, hb.2⟩

theorem absorb_or_bare (a : Gathered) {k : Canonical} (h : k.Proper) :
    (a.absorb .or k).bare = false := by
  rcases absorb_or_cases a h with ⟨-, ha⟩ | ha
  · rw [ha]
    rfl
  · exact ha.bare

theorem foldl_or_bare : ∀ {ks : List Canonical} (a : Gathered), (∀ k ∈ ks, k.Proper) → ks ≠ [] →
    (ks.foldl (absorb .or) a).bare = false
  | [k], a, h, _ => absorb_or_bare a (h k (by simp))
  | k :: k' :: ks, a, h, _ =>
    foldl_or_bare (a.absorb .or k) (fun m hm => h m (List.mem_cons_of_mem k hm)) (by simp)

/-- Only a disjunction leaves out a child that holds of no token. -/
theorem foldl_and_vacuous : ∀ (ks : List Canonical) (a : Gathered),
    (ks.foldl (absorb .and) a).vacuous = a.vacuous
  | [], _ => rfl
  | k :: ks, a => by
    rw [List.foldl_cons, foldl_and_vacuous ks]
    rcases absorb_cases .and a k with ⟨-, hc, -⟩ | ⟨-, -, -, ha⟩ | ⟨p, -, ha⟩ | ⟨-, -, ha⟩ |
      ⟨-, -, ha⟩
    · nomatch hc
    all_goals simp [ha]

theorem eq_or_of_vacuous (c : Combinator) (ks : List Canonical) (pos neg : List Plan)
    (h : (ks.foldl (absorb c) ⟨pos, neg, false⟩).vacuous = true) : c = .or := by
  cases c with
  | or => rfl
  | and =>
    rw [foldl_and_vacuous] at h
    cases h

end Gathered

theorem canonical_eq (f : String) (c : Combinator) (n : Bool) (pos neg : List Plan)
    (kids : List Predicate) :
    (Predicate.mk f c n pos neg kids).canonical
      = ((kids.map canonical).foldl (Gathered.absorb c) ⟨pos, neg, false⟩).finish f c n := by
  rw [canonical, canonicals_eq]

theorem canonical_proper (w : Predicate) : w.canonical.Proper := by
  obtain ⟨f, c, n, pos, neg, kids⟩ := w
  rw [canonical_eq]
  exact Gathered.finish_proper _ f c n

theorem canonicals_proper (ks : List Predicate) : ∀ k ∈ ks.map canonical, k.Proper := by
  intro k hk
  obtain ⟨w, -, rfl⟩ := List.mem_map.1 hk
  exact w.canonical_proper

/-! ## The canonical form of a canonical form -/

namespace Canonical

theorem canonical_toPredicate (k : Canonical) :
    k.toPredicate.canonical = ofAtoms k.field k.combinator k.negated k.positive k.negative := by
  rw [toPredicate, canonical_eq]
  rfl

/-- Atoms that are on their sides already stay there. -/
theorem Proper.ofAtoms {k : Canonical} (h : k.Proper) :
    Canonical.ofAtoms k.field k.combinator k.negated k.positive k.negative = k := by
  obtain ⟨f, c, n, shape⟩ := k
  cases shape with
  | empty => rfl
  | positive ps =>
    obtain ⟨p, ps, rfl⟩ := List.exists_cons_of_ne_nil h
    rfl
  | mixed ps ns =>
    obtain ⟨hp, hn, rfl⟩ := h
    obtain ⟨p, ps, rfl⟩ := List.exists_cons_of_ne_nil hp
    obtain ⟨q, ns, rfl⟩ := List.exists_cons_of_ne_nil hn
    rfl

theorem canonical_toPredicate_iff (k : Canonical) : k.toPredicate.canonical = k ↔ k.Proper := by
  constructor
  · intro h
    rw [← h]
    exact k.toPredicate.canonical_proper
  · intro h
    rw [canonical_toPredicate, h.ofAtoms]

end Canonical

/-- The canonical form is proper, is its own canonical form, and has the plan of the predicate as it
stands and when it is read as a predicate again. -/
theorem canonical_fixpoint (w : Predicate) :
    w.canonical.Proper ∧ w.canonical.toPredicate.canonical = w.canonical ∧
      w.canonical.toPlan = w.toPlan ∧ w.canonical.toPredicate.toPlan = w.toPlan := by
  have hp := w.canonical_proper
  have hc := w.canonical.canonical_toPredicate_iff.2 hp
  refine ⟨hp, hc, rfl, ?_⟩
  rw [toPlan, toPlan, hc]

end Predicate

end CorpusQuery
