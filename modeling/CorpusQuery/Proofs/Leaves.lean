import CorpusQuery.Proofs.Canonical
import Mathlib.Algebra.BigOperators.Group.List.Basic
import Mathlib.Algebra.Order.Group.Multiset

/-!
# Atoms are neither lost nor doubled

A child of a predicate is left out, gives its atoms to its parent, on either side, or becomes an
atom itself. Whatever happens, the atoms gathered so far grow by just the leaves of the child
(`Predicate.Gathered.absorb_leaves`): one that is left out has none, as a plan of all tokens does
not count. So by induction over the children the leaves of a plan are those of the atoms of the
predicate at all depths (`Predicate.leaves_toPlan`), and if the atoms are leaves themselves, they
are the leaves of the plan (`Predicate.leaves_toPlan_eq_atoms`).
-/

namespace CorpusQuery

namespace Plan

mutual

/-- The leaves of the plan, each as often as it stands there, but for those of all tokens and those
of what is ignored. -/
def leaves : Plan → Multiset Plan
  | .everything _ => 0
  | .allOf ps | .anyOf ps => leavesOfAll ps
  | .without p q => p.leaves + q.leaves
  | .sequence is _ => leavesOfItems is
  | .recurrence p _ _ _ | .startOf p | .endOf p => p.leaves
  | p => {p}

def leavesOfAll : List Plan → Multiset Plan
  | [] => 0
  | p :: ps => p.leaves + leavesOfAll ps

def leavesOfItems : List Item → Multiset Plan
  | [] => 0
  | ⟨p, _⟩ :: is => p.leaves + leavesOfItems is

end

/-- Whether the plan is a leaf, and not the one of all tokens. -/
def isTest : Plan → Bool
  | .everything _ => false
  | p => p.isLeaf

theorem leaves_of_isTest {p : Plan} (h : p.isTest = true) : p.leaves = {p} := by
  cases p <;> first | rfl | cases h

theorem leavesOfAll_of_isTest : ∀ {ps : List Plan}, (∀ p ∈ ps, p.isTest = true) →
    leavesOfAll ps = ps
  | [], _ => rfl
  | p :: ps, h => by
    obtain ⟨hp, hps⟩ := List.forall_mem_cons.1 h
    rw [leavesOfAll, leaves_of_isTest hp, leavesOfAll_of_isTest hps]
    rfl

theorem leavesOfAll_eq : ∀ ps : List Plan, leavesOfAll ps = (ps.map leaves).sum
  | [] => rfl
  | p :: ps => by rw [leavesOfAll, leavesOfAll_eq ps, List.map_cons, List.sum_cons]

theorem leavesOfAll_append (ps qs : List Plan) :
    leavesOfAll (ps ++ qs) = leavesOfAll ps + leavesOfAll qs := by
  simp only [leavesOfAll_eq, List.map_append, List.sum_append]

theorem leavesOfAll_flatMap {α : Type} (f : α → List Plan) (as : List α) :
    leavesOfAll (as.flatMap f) = (as.map fun a => leavesOfAll (f a)).sum := by
  induction as with
  | nil => rfl
  | cons a as ih => rw [List.flatMap_cons, leavesOfAll_append, ih, List.map_cons, List.sum_cons]

theorem leavesOfAll_perm {ps qs : List Plan} (h : ps.Perm qs) :
    leavesOfAll ps = leavesOfAll qs := by
  rw [leavesOfAll_eq, leavesOfAll_eq]
  exact (h.map leaves).sum_eq

theorem leaves_combine (c : Combinator) (ps : List Plan) :
    (combine c ps).leaves = leavesOfAll ps := by
  unfold combine
  split
  · exact (add_zero _).symm
  · cases c <;> rfl

end Plan

namespace Predicate

open Plan (leavesOfAll)

mutual

/-- The atoms of the predicate, negated ones included, and those of its children at any depth. -/
def atoms : Predicate → List Plan
  | ⟨_, _, _, pos, neg, kids⟩ => (pos ++ neg) ++ atomsOfAll kids

def atomsOfAll : List Predicate → List Plan
  | [] => []
  | k :: ks => k.atoms ++ atomsOfAll ks

end

theorem atomsOfAll_eq (ks : List Predicate) : atomsOfAll ks = ks.flatMap atoms := by
  induction ks with
  | nil => rfl
  | cons k ks ih => rw [atomsOfAll, ih, List.flatMap_cons]

/-- Induction over a predicate, with the claim at hand for its children. -/
theorem induction {P : Predicate → Prop} (h : ∀ w, (∀ k ∈ w.children, P k) → P w) : ∀ w, P w :=
  @Predicate.rec P (fun ks => ∀ k ∈ ks, P k) (fun f c n pos neg kids => h ⟨f, c, n, pos, neg, kids⟩)
    (by simp) fun _ _ hk hks => List.forall_mem_cons.2 ⟨hk, hks⟩

namespace Canonical

/-- The leaves of all atoms of the canonical form. -/
def leaves (k : Canonical) : Multiset Plan :=
  leavesOfAll (k.positive ++ k.negative)

theorem leaves_of_empty {k : Canonical} (h : k.shape = .empty) : k.leaves = 0 := by
  rw [leaves, positive, negative, h]
  rfl

theorem core_leaves : ∀ k : Canonical, k.core.leaves = k.leaves
  | ⟨_, _, _, .empty⟩ => rfl
  | ⟨_, c, _, .positive ps⟩ => by
    rw [core, Plan.leaves_combine]
    exact congrArg leavesOfAll (List.append_nil ps).symm
  | ⟨_, _, _, .mixed ps ns⟩ => by
    rw [core, Plan.leaves, Plan.leaves_combine, Plan.leaves_combine]
    exact (Plan.leavesOfAll_append ps ns).symm

theorem toPlan_leaves (k : Canonical) : k.toPlan.leaves = k.leaves := by
  unfold toPlan
  split
  · rw [Plan.leaves, core_leaves]
    exact zero_add _
  · exact core_leaves k

theorem ofAtoms_leaves (f : String) (c : Combinator) (n : Bool) (pos neg : List Plan) :
    (ofAtoms f c n pos neg).leaves = leavesOfAll (pos ++ neg) :=
  Plan.leavesOfAll_perm (ofAtoms_perm f c n pos neg)

end Canonical

namespace Gathered

/-- The leaves of all atoms gathered so far. -/
def leaves (a : Gathered) : Multiset Plan :=
  leavesOfAll (a.positive ++ a.negative)

theorem take_leaves (a : Gathered) (n : Bool) (pos neg : List Plan) :
    (a.take n pos neg).leaves = a.leaves + leavesOfAll (pos ++ neg) :=
  (Plan.leavesOfAll_perm (take_perm a n pos neg)).trans (Plan.leavesOfAll_append _ _)

theorem take_core_leaves (a : Gathered) (n : Bool) (k : Canonical) :
    (a.take n [k.core] []).leaves = a.leaves + k.leaves := by
  rw [take_leaves, ← k.core_leaves]
  exact congrArg (a.leaves + ·) (add_zero _)

/-- A step adds the leaves of the child, whichever way the child is absorbed. -/
theorem absorb_leaves (c : Combinator) (a : Gathered) (k : Canonical) :
    (a.absorb c k).leaves = a.leaves + k.leaves := by
  rcases absorb_cases c a k with ⟨he, -, -, ha⟩ | ⟨he, -, -, ha⟩ | ⟨p, hp, ha⟩ | ⟨-, -, ha⟩ |
    ⟨-, -, ha⟩
  · rw [ha, Canonical.leaves_of_empty he, add_zero]
    rfl
  · rw [ha, Canonical.leaves_of_empty he, add_zero]
  · rw [ha, take_leaves, Canonical.leaves, Canonical.positive, Canonical.negative, hp]
  · rw [ha, take_leaves, Canonical.leaves]
  · rw [ha, take_core_leaves]

theorem foldl_absorb_leaves (c : Combinator) : ∀ (ks : List Canonical) (a : Gathered),
    (ks.foldl (absorb c) a).leaves = a.leaves + (ks.map Canonical.leaves).sum
  | [], a => (add_zero a.leaves).symm
  | k :: ks, a => by
    rw [List.foldl_cons, foldl_absorb_leaves c ks, absorb_leaves, List.map_cons, List.sum_cons,
      add_assoc]

/-- The atom that keeps a disjunction from becoming empty is one of all tokens. -/
theorem finish_leaves (a : Gathered) (f : String) (c : Combinator) (n : Bool) :
    (a.finish f c n).leaves = a.leaves := by
  unfold finish
  split
  · rename_i h
    simp only [Bool.and_eq_true, List.isEmpty_iff] at h
    rw [Canonical.ofAtoms_leaves, leaves, h.1.2, h.2]
    rfl
  · exact Canonical.ofAtoms_leaves f c n _ _

end Gathered

theorem canonical_leaves : ∀ w : Predicate, w.canonical.leaves = leavesOfAll w.atoms := by
  refine induction fun ⟨f, c, n, pos, neg, kids⟩ ih => ?_
  have hkids : (kids.map (Canonical.leaves ∘ canonical)).sum = leavesOfAll (atomsOfAll kids) := by
    rw [atomsOfAll_eq, Plan.leavesOfAll_flatMap]
    exact congrArg List.sum (List.map_congr_left ih)
  rw [canonical_eq, Gathered.finish_leaves, Gathered.foldl_absorb_leaves, List.map_map, hkids,
    atoms, Plan.leavesOfAll_append]
  rfl

theorem leaves_toPlan (w : Predicate) : w.toPlan.leaves = leavesOfAll w.atoms := by
  rw [toPlan, Canonical.toPlan_leaves, canonical_leaves]

/-- Atoms that are leaves, at all depths, are the leaves of the plan, each as often as it was
written. -/
theorem leaves_toPlan_eq_atoms {w : Predicate} (h : ∀ p ∈ w.atoms, p.isTest = true) :
    w.toPlan.leaves = w.atoms := by
  rw [leaves_toPlan, Plan.leavesOfAll_of_isTest h]

/-- No noun, or a verb that is no name, or no noun again, or what holds of no token. -/
def noNounOrVerb : Predicate where
  field := "text"
  combinator := .or
  negative := [.term "text" "pos" "noun"]
  children := [
    (ofAtom "text" (.term "text" "pos" "verb")).addNegative (.annotated "text" "name"),
    (ofAtom "text" (.term "text" "pos" "noun")).negate,
    { field := "text", combinator := .and, negated := true }]

theorem leaves_toPlan_eq_atoms_noNounOrVerb :
    (∀ p ∈ noNounOrVerb.atoms, p.isTest = true) ∧
      noNounOrVerb.toPlan.leaves = noNounOrVerb.atoms :=
  ⟨by decide, leaves_toPlan_eq_atoms (by decide)⟩

end Predicate

end CorpusQuery
