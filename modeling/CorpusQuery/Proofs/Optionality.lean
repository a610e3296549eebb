import CorpusQuery.Proofs.Sizes

/-!
# Optional sentences and optional items

Whether a sentence is optional can be asked of the sentence (`Sentence.isOptional`), and it is told
by the item that the sentence is lowered to. Lowering works the flag out anew from the items of the
parts, and comes to the same (`Sentence.optional_lower`). What is asked is the fold of an algebra
(`Sentence.optionality`) whose value no step of simplification moves, as two elements merge into an
optional one just if both are optional (`Sentence.isOptional_simplify`).
-/

namespace CorpusQuery.Sentence

open Plan (Item Ignore)

/-! ## Simplification -/

/-- The value of a choice that is optional only if it leaves no choice. -/
def onlyOptional : List Bool → Bool
  | [b] => b
  | _ => false

/-- Rows are optional if all of their members are, but for phrases without elements. -/
def optionality : Algebra Bool where
  element e := e.occurrence.optional
  phrase bs := !bs.isEmpty && bs.all id
  sequence bs := bs.all id
  alternatives := onlyOptional
  occurring o b := o.optional || b

mutual

theorem isOptional_eq_fold : ∀ s : Sentence, s.isOptional = s.fold optionality
  | .basic p o b => by
    rw [isOptional, fold_basic]
    simp [optionality, Phrase.isOptional, Phrase.isEmpty]
  | .composite [] o b => (Bool.or_false _).symm
  | .composite [ss] o b => by
    rw [isOptional, fold_composite, allOptional_eq_foldRow ss]
    rfl
  | .composite (_ :: _ :: _) o b => (Bool.or_false _).symm

theorem allOptional_eq_foldRow : ∀ ss : List Sentence, allOptional ss = foldRow optionality ss
  | [] => rfl
  | s :: ss => by
    rw [allOptional, isOptional_eq_fold s, allOptional_eq_foldRow ss]
    rfl

end

theorem onlyOptional_of_several {bs : List Bool} (h : ∀ b, bs ≠ [b]) : onlyOptional bs = false := by
  unfold onlyOptional
  split
  · exact absurd rfl (h _)
  · rfl

theorem phrase_optionality {bs : List Bool} (h : bs ≠ []) :
    optionality.phrase bs = bs.all id := by
  simp [optionality, h]

theorem flat_all : Flat (· = ·) fun bs : List Bool => bs.all id where
  congr := by
    rintro xs m _ ys rfl
    rfl
  single := by simp
  splice := by simp

theorem flat_onlyOptional : Flat (· = ·) onlyOptional where
  congr := by
    rintro xs m _ ys rfl
    rfl
  single _ := rfl
  splice xs ys zs hys := by
    by_cases hs : xs = [] ∧ zs = []
    · obtain ⟨rfl, rfl⟩ := hs
      rw [List.nil_append, List.nil_append, List.append_nil]
      rfl
    · -- there are several alternatives, whether the inner brackets stay or not
      obtain ⟨y, ys, rfl⟩ := List.exists_cons_of_ne_nil hys
      have hin : ¬ (xs = [] ∧ ys ++ zs = []) := by
        rintro ⟨rfl, h⟩
        exact hs ⟨rfl, (List.append_eq_nil_iff.1 h).2⟩
      rw [List.cons_append, onlyOptional_of_several (Weight.ne_singleton hs _),
        onlyOptional_of_several (Weight.ne_singleton hin y)]

theorem optionality_tolerates : optionality.Tolerates (· = ·) where
  refl _ := rfl
  trans := Eq.trans
  occurring o _ _ h := congrArg (o.optional || ·) h
  once b := Bool.false_or b
  merge xs a b c ys hc := by
    have ho : c.occurrence.optional = (a.occurrence.optional && b.occurrence.optional) :=
      Occurrence.optional_of_merge (Element.merge_eq_some hc).2.2
    rw [phrase_optionality (by simp), phrase_optionality (by simp)]
    simp [optionality, ho, Bool.and_assoc]
  fuse xs es fs ys he hf := by
    rw [phrase_optionality he, phrase_optionality hf, phrase_optionality (by simp [he])]
    simp [optionality, Bool.and_assoc]
  sequence := flat_all
  alternatives := flat_onlyOptional

/-- Simplifying a sentence does not change whether it is optional. -/
theorem isOptional_simplify (s : Sentence) : s.simplify.isOptional = s.isOptional := by
  rw [isOptional_eq_fold, isOptional_eq_fold]
  exact (fold_simplify optionality_tolerates s).symm

/-! ## Lowering -/

variable {g : Option Ignore} {i : Item} {is : List Item} {bs : List Bool}

theorem optional_sequenceItem (h : is.map (·.optional) = bs) (hi : sequenceItem g is = .ok i) :
    i.optional = bs.all id := by
  subst h
  match is with
  | [] => cases hi
  | [j] =>
    cases hi
    simp
  | j :: j' :: is =>
    cases hi
    simp

theorem optional_alternationItem (h : is.map (·.optional) = bs)
    (hi : alternationItem g is = .ok i) : i.optional = onlyOptional bs := by
  subst h
  match is with
  | [] => cases hi
  | [j] =>
    cases hi
    rfl
  | j :: j' :: is =>
    cases hi
    rfl

theorem optional_phrase {p : Phrase} (hi : p.lower g = .ok i) : i.optional = p.isOptional := by
  have hp : p.elements ≠ [] := by
    intro hp
    rw [Phrase.lower, hp] at hi
    cases hi
  have he : (p.elements.map (·.lower g)).map (·.optional)
      = p.elements.map (·.occurrence.optional) := by
    simp [Element.lower, Item.repeated]
  rw [optional_sequenceItem he (sequenceItem_of_phrase hi), Phrase.isOptional, Phrase.isEmpty,
    List.isEmpty_eq_false_iff.2 hp]
  simp

mutual

theorem optional_fold : ∀ (s : Sentence) {i : Item}, s.lower g = .ok i →
    i.optional = s.fold optionality
  | .basic p o b => by
    intro hi
    rw [lower] at hi
    obtain ⟨j, hj, hi⟩ := bind_eq_ok hi
    cases hi
    rw [← isOptional_eq_fold, isOptional, ← optional_phrase hj]
    rfl
  | .composite alts o b => by
    intro hi
    rw [lower] at hi
    obtain ⟨is, his, hi⟩ := bind_eq_ok hi
    obtain ⟨j, hj, hi⟩ := bind_eq_ok hi
    cases hi
    rw [fold_composite]
    exact congrArg (o.optional || ·)
      (optional_alternationItem (optional_lowerAlternatives alts his) hj)

theorem optional_lowerAlternatives : ∀ (alts : List (List Sentence)) {is : List Item},
    lowerAlternatives g alts = .ok is → is.map (·.optional) = alts.map (foldRow optionality)
  | [] => by
    intro his
    cases his
    rfl
  | ss :: alts => by
    intro his
    rw [lowerAlternatives] at his
    obtain ⟨js, hjs, his⟩ := bind_eq_ok his
    obtain ⟨j, hj, his⟩ := bind_eq_ok his
    obtain ⟨rest, hrest, his⟩ := bind_eq_ok his
    cases his
    rw [List.map_cons, List.map_cons, optional_lowerAlternatives alts hrest,
      optional_sequenceItem (optional_lowerSequence ss hjs) hj]
    rfl

theorem optional_lowerSequence : ∀ (ss : List Sentence) {is : List Item},
    lowerSequence g ss = .ok is → is.map (·.optional) = ss.map (fold optionality)
  | [] => by
    intro his
    cases his
    rfl
  | s :: ss => by
    intro his
    rw [lowerSequence] at his
    obtain ⟨j, hj, his⟩ := bind_eq_ok his
    obtain ⟨rest, hrest, his⟩ := bind_eq_ok his
    cases his
    rw [List.map_cons, List.map_cons, optional_fold s hj, optional_lowerSequence ss hrest]

end

/-- The item of a sentence is optional if the sentence says so. -/
theorem optional_lower {s : Sentence} (hi : s.lower g = .ok i) : i.optional = s.isOptional := by
  rw [isOptional_eq_fold]
  exact optional_fold s hi

/-- A sentence that has a plan is lowered to an item that is optional if the sentence is: the plan
is the one of the item, in a sequence of its own if the item is optional. Simplified, the sentence
is optional as before. -/
theorem toPlan_optional {s : Sentence} {p : Plan} (hp : s.toPlan g = .ok p) :
    (∃ i, s.lower g = .ok i ∧ (i.optional = true ↔ s.isOptional = true) ∧
        (s.isOptional = false → p = i.plan) ∧
        (s.isOptional = true → p = .sequence [⟨i.plan, true⟩] g)) ∧
      s.simplify.isOptional = s.isOptional := by
  refine ⟨?_, isOptional_simplify s⟩
  obtain ⟨i, hi, hp⟩ := bind_eq_ok hp
  have ho := optional_lower hi
  obtain rfl : i.toPlan g = p := Except.ok.inj hp
  refine ⟨i, hi, by rw [ho], fun h => ?_, fun h => ?_⟩ <;> obtain ⟨q, b⟩ := i <;>
    obtain rfl : b = _ := ho.trans h
  · rfl
  · rfl

/-- A name and, in brackets, a place, either of which may be missing. -/
def maybeNameMaybePlace : Sentence :=
  ofAlternatives [[ofPhrase ⟨[.ofGroup (.named "text" "name" .full) .atMostOnce], false⟩,
    grouped (ofPhrase ⟨[.ofGroup (.named "text" "place" .full) .atMostOnce], false⟩)]]

theorem toPlan_optional_maybeNameMaybePlace :
    let s := maybeNameMaybePlace
    ∃ p, s.toPlan none = .ok p ∧ s.isOptional = true ∧
      (∃ i, s.lower none = .ok i ∧ (i.optional = true ↔ s.isOptional = true) ∧
          (s.isOptional = false → p = i.plan) ∧
          (s.isOptional = true → p = .sequence [⟨i.plan, true⟩] none)) ∧
        s.simplify.isOptional = s.isOptional :=
  ⟨_, rfl, rfl, toPlan_optional rfl⟩

end CorpusQuery.Sentence
