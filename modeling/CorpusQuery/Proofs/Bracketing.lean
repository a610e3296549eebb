import CorpusQuery.Proofs.Canonical
import Mathlib.Data.List.Basic
import Mathlib.Logic.Relation

/-!
# Brackets in a predicate

What a run of children adds to the atoms gathered before it is what it gathers alone
(`Predicate.Gathered.foldl_absorb_append`). A run in brackets of its own is brought into canonical
form first, where negated atoms alone change sides and a mixture under `or` becomes one under `and`;
the rule by which the predicate around absorbs it undoes just that
(`Predicate.Gathered.absorb_ofAtoms`). So brackets with the combinator that stands around them are
neutral, at any depth and any number of them (`Predicate.canonical_bracketed`). The exception is a
disjunction of children that hold of no token: loose they are left out, but a predicate of their own
they must not leave empty.
-/

namespace CorpusQuery.Predicate

namespace Gathered

/-- The atoms of the first, and then those of the second. -/
def append (a b : Gathered) : Gathered where
  positive := a.positive ++ b.positive
  negative := a.negative ++ b.negative
  vacuous := a.vacuous || b.vacuous

theorem append_nil (a : Gathered) : a.append ⟨[], [], false⟩ = a := by
  simp [append]

theorem append_assoc (a b d : Gathered) : (a.append b).append d = a.append (b.append d) := by
  simp [append, Bool.or_assoc]

theorem take_false (a : Gathered) (pos neg : List Plan) :
    a.take false pos neg = a.append ⟨pos, neg, false⟩ := by
  simp [take, append]

theorem take_true (a : Gathered) (pos neg : List Plan) :
    a.take true pos neg = a.append ⟨neg, pos, false⟩ := by
  simp [take, append]

theorem append_take (a b : Gathered) (n : Bool) (pos neg : List Plan) :
    (a.append b).take n pos neg = a.append (b.take n pos neg) := by
  cases n with
  | false => rw [take_false, take_false, append_assoc]
  | true => rw [take_true, take_true, append_assoc]

theorem absorb_append (c : Combinator) (a b : Gathered) (k : Canonical) :
    (a.append b).absorb c k = a.append (b.absorb c k) := by
  unfold absorb
  split_ifs
  · simp [append]
  · rfl
  · exact append_take a b k.negated k.positive k.negative
  · exact append_take a b k.negated [k.core] []

theorem foldl_absorb_append (c : Combinator) : ∀ (ks : List Canonical) (a b : Gathered),
    ks.foldl (absorb c) (a.append b) = a.append (ks.foldl (absorb c) b)
  | [], _, _ => rfl
  | k :: ks, a, b => by
    rw [List.foldl_cons, absorb_append, foldl_absorb_append c ks, List.foldl_cons]

/-- What children gather alone. -/
def ofChildren (c : Combinator) (ks : List Canonical) : Gathered :=
  ks.foldl (absorb c) ⟨[], [], false⟩

theorem foldl_absorb (c : Combinator) (ks : List Canonical) (a : Gathered) :
    ks.foldl (absorb c) a = a.append (ofChildren c ks) := by
  have h := foldl_absorb_append c ks a ⟨[], [], false⟩
  rwa [append_nil] at h

/-! ## A child in brackets -/

theorem absorb_agreeing (a : Gathered) {c : Combinator} {k : Canonical} (he : k.isEmpty = false)
    (hc : ((k.combinator != c) == k.negated) = true) :
    a.absorb c k = a.take k.negated k.positive k.negative := by
  simp [absorb, he, hc]

/-- The atoms of a child that was made from them under the same combinator are taken over as they
were given. -/
theorem absorb_ofAtoms (a : Gathered) (f : String) (c : Combinator) (pos neg : List Plan)
    (h : pos = [] ∧ neg = [] → c = .and) :
    a.absorb c (.ofAtoms f c false pos neg) = a.append ⟨pos, neg, false⟩ := by
  match pos, neg, c with
  | [], [], c =>
    obtain rfl := h ⟨rfl, rfl⟩
    exact (append_nil a).symm
  | p :: pos, [], c =>
    have hc : ((c != c) == false) = true := by simp
    rw [absorb_agreeing a rfl hc]
    exact take_false a (p :: pos) []
  | [], q :: neg, c =>
    -- the atoms are on the positive side now, and the sign tells so
    have hc : ((c.dual != c) == true) = true := by cases c <;> rfl
    rw [absorb_agreeing a rfl hc]
    exact take_true a (q :: neg) []
  | p :: pos, q :: neg, .and =>
    rw [absorb_agreeing a rfl rfl]
    exact take_false a (p :: pos) (q :: neg)
  | p :: pos, q :: neg, .or =>
    rw [absorb_agreeing a rfl rfl]
    exact take_true a (q :: neg) (p :: pos)

theorem HasAtom.append {a : Gathered} (h : a.HasAtom) (b : Gathered) : (a.append b).HasAtom :=
  fun ⟨hp, hn⟩ => h ⟨(List.append_eq_nil_iff.1 hp).1, (List.append_eq_nil_iff.1 hn).1⟩

theorem HasAtom.append_left {b : Gathered} (h : b.HasAtom) (a : Gathered) : (a.append b).HasAtom :=
  fun ⟨hp, hn⟩ => h ⟨(List.append_eq_nil_iff.1 hp).2, (List.append_eq_nil_iff.1 hn).2⟩

/-- Under `or` only a child that holds of no token brings no atom. -/
theorem absorb_or_hasAtom (a : Gathered) {k : Canonical} (hk : k.Proper) (hv : k.isVoid = false) :
    (a.absorb .or k).HasAtom := by
  rcases absorb_or_cases a hk with ⟨hv', -⟩ | h
  · rw [hv] at hv'
    cases hv'
  · exact h

theorem ofChildren_or_hasAtom {ks : List Canonical} (hp : ∀ k ∈ ks, k.Proper)
    (hv : ∃ k ∈ ks, k.isVoid = false) : (ofChildren .or ks).HasAtom := by
  obtain ⟨k, hk, hv⟩ := hv
  obtain ⟨xs, zs, rfl⟩ := List.append_of_mem hk
  unfold ofChildren
  rw [List.foldl_append, List.foldl_cons, foldl_absorb]
  exact (absorb_or_hasAtom _ (hp k hk) hv).append _

/-- Children that are not all left out gather atoms, or else there was nothing to leave out. -/
theorem ofChildren_cases {c : Combinator} {ks : List Canonical} (hp : ∀ k ∈ ks, k.Proper)
    (hv : ¬ (c = .or ∧ ∀ k ∈ ks, k.isVoid = true)) :
    (ofChildren c ks).HasAtom ∨ c = .and ∧ (ofChildren c ks).vacuous = false := by
  cases c with
  | and => exact .inr ⟨rfl, foldl_and_vacuous ks _⟩
  | or => exact .inl (ofChildren_or_hasAtom hp (by simpa using hv))

/-- The atoms alone, whatever was left out. -/
def settled (a : Gathered) : Gathered :=
  { a with vacuous := false }

/-- Absorbed in brackets, children bring the atoms that they gather alone. -/
theorem absorb_finish {c : Combinator} {b : Gathered}
    (h : b.HasAtom ∨ c = .and ∧ b.vacuous = false) (a : Gathered) (f : String) :
    a.absorb c (b.finish f c false) = a.append b.settled := by
  have hf : b.finish f c false = .ofAtoms f c false b.positive b.negative := by
    rcases h with h | ⟨-, h⟩
    · exact h.finish f c false
    · exact finish_of_not_vacuous h f c false
  rw [hf]
  refine absorb_ofAtoms a f c _ _ fun hn => ?_
  rcases h with h | ⟨h, -⟩
  · exact absurd hn h
  · exact h

/-- Only where no atom was gathered does it matter which children were left out. -/
theorem finish_settled {c : Combinator} {b : Gathered}
    (h : b.HasAtom ∨ c = .and ∧ b.vacuous = false) (a d : Gathered) (f : String) (n : Bool) :
    ((a.append b.settled).append d).finish f c n = ((a.append b).append d).finish f c n := by
  rcases h with h | ⟨-, h⟩
  · have hs : b.settled.HasAtom := h
    rw [((h.append_left a).append d).finish, ((hs.append_left a).append d).finish]
    rfl
  · rw [settled, ← h]

end Gathered

/-! ## Brackets anywhere -/

/-- The second predicate is the first with a run of children, somewhere in it, put into brackets:
the run becomes one child that is joined as its parent is. In a disjunction not all children of the
run may be left out. -/
inductive Bracketed : Predicate → Predicate → Prop
  | run (f g : String) (c : Combinator) (n : Bool) (pos neg : List Plan)
      (xs run zs : List Predicate)
      (hr : ¬ (c = .or ∧ ∀ k ∈ run, k.canonical.isVoid = true)) :
      Bracketed ⟨f, c, n, pos, neg, xs ++ (run ++ zs)⟩
        ⟨f, c, n, pos, neg, xs ++ ⟨g, c, false, [], [], run⟩ :: zs⟩
  | child (f : String) (c : Combinator) (n : Bool) (pos neg : List Plan) (xs zs : List Predicate)
      {k l : Predicate} (h : Bracketed k l) :
      Bracketed ⟨f, c, n, pos, neg, xs ++ k :: zs⟩ ⟨f, c, n, pos, neg, xs ++ l :: zs⟩

/-- One pair of brackets. -/
theorem canonical_of_bracketed {w v : Predicate} (h : Bracketed w v) :
    v.canonical = w.canonical := by
  induction h with
  | run f g c n pos neg xs run zs hr =>
    have hv : ¬ (c = .or ∧ ∀ k ∈ run.map canonical, k.isVoid = true) := by simpa using hr
    have hg : (Predicate.mk g c false [] [] run).canonical
        = (Gathered.ofChildren c (run.map canonical)).finish g c false := canonical_eq ..
    have h := Gathered.ofChildren_cases (canonicals_proper run) hv
    simp only [canonical_eq, List.map_append, List.map_cons, List.foldl_append, List.foldl_cons, hg]
    rw [Gathered.absorb_finish h, Gathered.foldl_absorb c (zs.map canonical),
      Gathered.finish_settled h, ← Gathered.foldl_absorb, ← Gathered.foldl_absorb]
  | child f c n pos neg xs zs h ih =>
    rw [canonical_eq, canonical_eq, List.map_append, List.map_cons, List.map_append, List.map_cons,
      ih]

/-- Any number of brackets, put around runs of children or of what has brackets already, leave the
canonical form as it is. -/
theorem canonical_bracketed {w v : Predicate} (h : Relation.ReflTransGen Bracketed w v) :
    v.canonical = w.canonical := by
  induction h with
  | refl => rfl
  | tail _ h ih => rw [canonical_of_bracketed h, ih]

/-- Any of these, and no atom besides. -/
def anyOf (kids : List Predicate) : Predicate where
  field := "text"
  combinator := .or
  children := kids

/-- A word that is not a noun. -/
def noNoun : Predicate :=
  (ofAtom "text" (.term "text" "pos" "noun")).negate

/-- A verb that is no name. -/
def plainVerb : Predicate :=
  (ofAtom "text" (.term "text" "pos" "verb")).addNegative (.annotated "text" "name")

theorem canonical_bracketed_verbs :
    Relation.ReflTransGen Bracketed (anyOf [noNoun, plainVerb, noNoun])
        (anyOf [anyOf [noNoun, anyOf [plainVerb, noNoun]]]) ∧
      (anyOf [anyOf [noNoun, anyOf [plainVerb, noNoun]]]).canonical
        = (anyOf [noNoun, plainVerb, noNoun]).canonical := by
  have hinner : Bracketed (anyOf [noNoun, plainVerb, noNoun])
      (anyOf [noNoun, anyOf [plainVerb, noNoun]]) :=
    .run "text" "text" .or false [] [] [_] [_, _] [] (by decide)
  have houter : Bracketed (anyOf [noNoun, anyOf [plainVerb, noNoun]])
      (anyOf [anyOf [noNoun, anyOf [plainVerb, noNoun]]]) :=
    .run "text" "text" .or false [] [] [] [_, _] [] (by decide)
  have h := (Relation.ReflTransGen.single hinner).tail houter
  exact ⟨h, canonical_bracketed h⟩

-- loose, a child that holds of no token is left out; alone in brackets it becomes an atom
example : (anyOf [noNoun, anyOf [(anyOf []).negate]]).canonical
    ≠ (anyOf [noNoun, (anyOf []).negate]).canonical := by decide +kernel

end CorpusQuery.Predicate
