import CorpusQuery.Proofs.Canonical

/-!
# What a token predicate says of a token

A plan is true or false of a token as soon as its elementary parts are (`Plan.holds`), and so is a
predicate, by its combinator and its signs (`Predicate.holds`). Absorbing a child joins its value to
that of the atoms gathered so far (`Gathered.value_absorb`), and by induction over the children the
plan of a predicate has the value of the predicate (`Predicate.toPlan_holds`).
-/

namespace CorpusQuery

namespace Combinator

/-- The value of two under the combinator. -/
def op : Combinator → Bool → Bool → Bool
  | and, a, b => a && b
  | or, a, b => a || b

/-- The value of all these under the combinator. -/
def join : Combinator → List Bool → Bool
  | and, bs => bs.all id
  | or, bs => bs.any id

theorem op_assoc (c : Combinator) (a b d : Bool) : c.op (c.op a b) d = c.op a (c.op b d) := by
  cases c <;> simp [op, Bool.and_assoc, Bool.or_assoc]

theorem op_comm (c : Combinator) (a b : Bool) : c.op a b = c.op b a := by
  cases c <;> simp [op, Bool.and_comm, Bool.or_comm]

theorem op_left_comm (c : Combinator) (a b d : Bool) : c.op a (c.op b d) = c.op b (c.op a d) := by
  cases c <;> simp [op, Bool.and_left_comm, Bool.or_left_comm]

theorem join_cons (c : Combinator) (b : Bool) (bs : List Bool) :
    c.join (b :: bs) = c.op b (c.join bs) := by
  cases c <;> simp [join, op]

theorem join_append (c : Combinator) (as bs : List Bool) :
    c.join (as ++ bs) = c.op (c.join as) (c.join bs) := by
  cases c <;> simp [join, op]

theorem op_join_nil (c : Combinator) (b : Bool) : c.op b (c.join []) = b := by
  cases c <;> simp [join, op]

theorem join_single (c : Combinator) (b : Bool) : c.join [b] = b := by
  rw [join_cons, op_join_nil]

/-- De Morgan's law. -/
theorem join_map_not (c : Combinator) : ∀ bs : List Bool, c.join (bs.map not) = !c.dual.join bs
  | [] => by cases c <;> rfl
  | b :: bs => by
    rw [List.map_cons, join_cons, join_cons, join_map_not c bs]
    cases c <;> simp [op, dual]

end Combinator

namespace Plan

section Holds

variable (v : Plan → Bool)

mutual

/-- Whether the plan is true of a token of which the elementary plans are true that `v` says. -/
def holds : Plan → Bool
  | .everything _ => true
  | .allOf ps => allHold ps
  | .anyOf ps => anyHolds ps
  | .without p q => holds p && !holds q
  | p => v p

def allHold : List Plan → Bool
  | [] => true
  | p :: ps => holds p && allHold ps

def anyHolds : List Plan → Bool
  | [] => false
  | p :: ps => holds p || anyHolds ps

end

theorem allHold_eq : ∀ ps : List Plan, allHold v ps = Combinator.and.join (ps.map (holds v))
  | [] => rfl
  | p :: ps => by rw [allHold, allHold_eq ps, List.map_cons, Combinator.join_cons, Combinator.op]

theorem anyHolds_eq : ∀ ps : List Plan, anyHolds v ps = Combinator.or.join (ps.map (holds v))
  | [] => rfl
  | p :: ps => by rw [anyHolds, anyHolds_eq ps, List.map_cons, Combinator.join_cons, Combinator.op]

theorem combine_holds (c : Combinator) (ps : List Plan) :
    (combine c ps).holds v = c.join (ps.map (holds v)) := by
  unfold combine
  split
  · rw [List.map_singleton, Combinator.join_single]
  · cases c
    · exact allHold_eq v ps
    · exact anyHolds_eq v ps

/-- The values of positive and of negated atoms. -/
def operands (pos neg : List Plan) : List Bool :=
  pos.map (holds v) ++ neg.map fun p => !holds v p

theorem join_operands_append (c : Combinator) (pos neg pos' neg' : List Plan) :
    c.join (operands v (pos ++ pos') (neg ++ neg'))
      = c.op (c.join (operands v pos neg)) (c.join (operands v pos' neg')) := by
  unfold operands
  simp only [List.map_append, c.join_append, c.op_assoc]
  rw [c.op_left_comm (c.join (pos'.map _))]

theorem join_operands_single (c : Combinator) (p : Plan) :
    c.join (operands v [p] []) = p.holds v :=
  c.join_single _

theorem join_operands_swap (c : Combinator) (pos neg : List Plan) :
    c.join (operands v neg pos) = !c.dual.join (operands v pos neg) := by
  rw [← c.join_map_not]
  unfold operands
  rw [List.map_append, c.join_append, c.join_append, c.op_comm]
  simp [Function.comp_def]

end Holds

end Plan

namespace Predicate

section Holds

variable (v : Plan → Bool)

mutual

/-- Whether the predicate is true of a token: an empty one is, whatever its combinator, before its
negation. -/
def holds : Predicate → Bool
  | ⟨f, c, n, pos, neg, kids⟩ =>
    n ^^ ((Predicate.mk f c n pos neg kids).isEmpty
      || c.join (Plan.operands v pos neg ++ eachHolds kids))

def eachHolds : List Predicate → List Bool
  | [] => []
  | k :: ks => holds k :: eachHolds ks

end

theorem eachHolds_eq : ∀ ks : List Predicate, eachHolds v ks = ks.map (holds v)
  | [] => rfl
  | k :: ks => by rw [eachHolds, eachHolds_eq ks, List.map_cons]

namespace Canonical

theorem signed_holds (k : Canonical) : k.toPlan.holds v = (k.negated ^^ k.core.holds v) := by
  unfold toPlan
  split <;> simp [Plan.holds, *]

theorem core_holds : ∀ {k : Canonical}, k.Proper → k.shape ≠ .empty →
    k.core.holds v = k.combinator.join (Plan.operands v k.positive k.negative)
  | ⟨_, _, _, .empty⟩, _, he => absurd rfl he
  | ⟨_, c, _, .positive ps⟩, _, _ => by
    rw [core, Plan.combine_holds]
    exact (congrArg c.join (List.append_nil _)).symm
  | ⟨_, _, _, .mixed ps ns⟩, h, _ => by
    obtain ⟨-, -, rfl⟩ := h
    have hn : (!(Plan.combine .or ns).holds v) = Combinator.and.join (Plan.operands v [] ns) := by
      rw [Plan.join_operands_swap, Plan.combine_holds, Plan.operands, List.map_nil,
        List.append_nil, Combinator.dual]
    rw [core, Plan.holds, Plan.combine_holds, hn]
    exact (Combinator.join_append .and (ps.map _) (ns.map _)).symm

/-- Changing sides keeps the value, as the sign of the whole changes too. -/
theorem ofAtoms_holds (f : String) (c : Combinator) (n : Bool) (pos neg : List Plan) :
    (ofAtoms f c n pos neg).toPlan.holds v
      = (n ^^ ((pos.isEmpty && neg.isEmpty) || c.join (Plan.operands v pos neg))) := by
  have h := ofAtoms_proper f c n pos neg
  rw [signed_holds]
  unfold ofAtoms at h ⊢
  split at h
  · simp [core, Plan.holds]
  · rw [core_holds v h (by simp)]
    rfl
  · rw [core_holds v h (by simp), Plan.join_operands_swap, Bool.not_xor, Bool.xor_not]
    simp [positive, negative]
  · rw [core_holds v h (by simp)]
    rfl
  · rw [core_holds v h (by simp), Plan.join_operands_swap, Bool.not_xor, Bool.xor_not, Bool.not_not]
    rfl

end Canonical

namespace Gathered

/-- The value of the atoms gathered so far. -/
def value (c : Combinator) (a : Gathered) : Bool :=
  c.join (Plan.operands v a.positive a.negative)

theorem value_take (c : Combinator) (a : Gathered) (n : Bool) (pos neg : List Plan) :
    (a.take n pos neg).value v c
      = c.op (a.value v c) (n ^^ (c.under n).join (Plan.operands v pos neg)) := by
  cases n
  · rw [Bool.false_xor]
    exact Plan.join_operands_append v c _ _ _ _
  · rw [Bool.true_xor, Combinator.under, if_pos rfl, ← Plan.join_operands_swap]
    exact Plan.join_operands_append v c _ _ _ _

theorem value_take_single (c : Combinator) (a : Gathered) (n : Bool) (p : Plan) :
    (a.take n [p] []).value v c = c.op (a.value v c) (n ^^ p.holds v) := by
  rw [value_take, Plan.join_operands_single]

/-- What a step adds: the value of the child. -/
theorem value_absorb (c : Combinator) (a : Gathered) {k : Canonical} (h : k.Proper) :
    (a.absorb c k).value v c = c.op (a.value v c) (k.toPlan.holds v) := by
  rw [k.signed_holds]
  rcases absorb_cases c a k with ⟨he, rfl, hn, ha⟩ | ⟨he, rfl, hn, ha⟩ | ⟨p, hp, ha⟩ | ⟨he, hc, ha⟩ |
    ⟨-, -, ha⟩
  · rw [ha, hn, Canonical.core, he]
    exact (Bool.or_false _).symm
  · rw [ha, hn, Canonical.core, he]
    exact (Bool.and_true _).symm
  · rw [ha, value_take_single, Canonical.core, hp]
    rfl
  · rw [ha, value_take, Canonical.core_holds v h he, hc]
  · rw [ha, value_take_single]

theorem value_foldl (c : Combinator) : ∀ (ks : List Canonical) (a : Gathered),
    (∀ k ∈ ks, k.Proper) →
    (ks.foldl (absorb c) a).value v c
      = c.op (a.value v c) (c.join (ks.map fun k => k.toPlan.holds v))
  | [], a, _ => (c.op_join_nil _).symm
  | k :: ks, a, h => by
    rw [List.foldl_cons, value_foldl c ks _ fun m hm => h m (List.mem_cons_of_mem k hm),
      value_absorb v c a (h k (by simp)), c.op_assoc, List.map_cons, c.join_cons]

theorem value_of_bare {a : Gathered} (h : a.bare = true) : a.value v .and = true := by
  obtain ⟨⟨-, hp⟩, hn⟩ : (a.vacuous = false ∧ a.positive = []) ∧ a.negative = [] := by
    simpa [bare] using h
  rw [value, hp, hn]
  rfl

/-- Only bare atoms are read as an empty predicate: what was left out of a disjunction holds of no
token. -/
theorem finish_holds : ∀ (a : Gathered) (f : String) (c : Combinator) (n : Bool),
    (a.vacuous = true → c = .or) →
    (a.finish f c n).toPlan.holds v = (n ^^ (a.bare || a.value v c))
  | ⟨pos, neg, false⟩, f, c, n, _ => Canonical.ofAtoms_holds v f c n pos neg
  | ⟨[], [], true⟩, f, c, n, h => by
    obtain rfl := h rfl
    exact Canonical.ofAtoms_holds v f .or n [] [.everything f]
  | ⟨p :: pos, neg, true⟩, f, c, n, _ => Canonical.ofAtoms_holds v f c n (p :: pos) neg
  | ⟨[], q :: neg, true⟩, f, c, n, _ => Canonical.ofAtoms_holds v f c n [] (q :: neg)

end Gathered

/-- A predicate with children may be left bare only if it is a conjunction, and then its value is
the one that an empty predicate has. -/
theorem bare_or_value (pos neg : List Plan) : ∀ (c : Combinator) {ks : List Canonical},
    (∀ k ∈ ks, k.Proper) →
    let a := ks.foldl (Gathered.absorb c) ⟨pos, neg, false⟩
    (a.bare || a.value v c) = ((pos.isEmpty && neg.isEmpty && ks.isEmpty) || a.value v c)
  | _, [], _ => by simp [Gathered.bare]
  | .or, k :: ks, h => by
    intro a
    have hb : a.bare = false := Gathered.foldl_or_bare _ h (List.cons_ne_nil k ks)
    rw [hb, List.isEmpty_cons, Bool.and_false]
  | .and, k :: ks, h => by
    intro a
    have hb : a.bare = true → a.value v .and = true := Gathered.value_of_bare v
    cases ha : a.bare with
    | false => rw [List.isEmpty_cons, Bool.and_false]
    | true => rw [hb ha, Bool.or_true, Bool.or_true]

theorem holds_eq (f : String) (c : Combinator) (n : Bool) (pos neg : List Plan)
    (kids : List Predicate) :
    (Predicate.mk f c n pos neg kids).holds v
      = (n ^^ ((pos.isEmpty && neg.isEmpty && kids.isEmpty)
        || c.op (c.join (Plan.operands v pos neg)) (c.join (kids.map (holds v))))) := by
  rw [holds, eachHolds_eq, c.join_append]
  rfl

mutual

theorem canonical_holds : ∀ w : Predicate, w.canonical.toPlan.holds v = w.holds v
  | ⟨f, c, n, pos, neg, kids⟩ => by
    have hp := canonicals_proper kids
    have hv := Gathered.eq_or_of_vacuous c (kids.map canonical) pos neg
    rw [canonical_eq, Gathered.finish_holds v _ f c n hv, bare_or_value v pos neg c hp,
      Gathered.value_foldl v c _ _ hp, List.map_map, eachCanonical_holds kids, holds_eq,
      List.isEmpty_map, Gathered.value]

theorem eachCanonical_holds : ∀ ks : List Predicate,
    ks.map ((fun k => k.toPlan.holds v) ∘ canonical) = ks.map (holds v)
  | [] => rfl
  | k :: ks => by
    rw [List.map_cons, List.map_cons, eachCanonical_holds ks, Function.comp_apply,
      canonical_holds k]

end

/-- The plan of a predicate is true of the tokens that the predicate is true of. -/
theorem toPlan_holds (w : Predicate) : w.toPlan.holds v = w.holds v :=
  canonical_holds v w

-- any of no tokens: the only child is left out, but the plan must not become one of all tokens
example : toPlan ⟨"text", .or, false, [], [], [⟨"text", .and, true, [], [], []⟩]⟩
    = .without (.everything "text") (.everything "text") := by cbv

end Holds

end Predicate

end CorpusQuery
