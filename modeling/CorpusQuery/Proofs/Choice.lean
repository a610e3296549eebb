import CorpusQuery.Proofs.Associativity

/-!
# A choice is compiled operand by operand

An alternation is assembled from its end, each operand put before what the rest became: one more
alternative of a composite, or the first of two. The normal form is the choice between the normal
forms of all operands, whichever it was (`Chain.assemble_choice`), and it opens those that are
choices themselves, and no others. So the plan of the alternation is a disjunction of the clauses
that its operands bring in, in the order they were written (`Compiler.compileChain_choice`).
-/

namespace CorpusQuery

open Sentence
open Plan (Item Ignore)

theorem Plan.combine_or_of_several {ps : List Plan} (h : 1 < ps.length) :
    combine .or ps = .anyOf ps := by
  match ps with
  | _ :: _ :: _ => rfl

namespace Sentence

/-- Whether the sentence is a choice between several alternatives, and stands once. -/
def isChoice : Sentence → Bool
  | .composite (_ :: _ :: _) o _ => o.isOnce
  | _ => false

/-! ## Normal forms -/

theorem simplify_open {alts : List (List Sentence)} (h : (ofAlternatives alts).Tidy) :
    (ofAlternatives alts).simplify = oneOf ((alts.map (List.map simplify)).map inRow) := by
  rw [ofAlternatives, simplify_composite h, collapse_flatten_compact]
  rfl

theorem inRow_simplify {s : Sentence} (h : s.Tidy) : inRow [s.simplify] = s.simplify :=
  inRow_single (normal_simplify h)

/-- A choice may be made after another one. -/
theorem oneOf_cons (s : Sentence) {ss : List Sentence} (h : ss ≠ []) :
    oneOf [s, oneOf ss] = oneOf (s :: ss) := by
  have hs := oneOf_splice [s] [] h
  rwa [List.append_nil] at hs

/-- The normal form of a sentence with a first option is the choice between the two normal forms. -/
theorem simplify_preferring {s t : Sentence} (hs : s.Tidy) (hu : s.simplified = false)
    (hf : s.Filled) (ht : t.Tidy) :
    (s.preferring t).simplify = oneOf [t.simplify, s.simplify] := by
  have hpair : (ofAlternatives [[t], [s]]).simplify = oneOf [t.simplify, s.simplify] := by
    rw [simplify_open (tidy_ofAlternatives (by simp [hs, ht]))]
    simp only [List.map_cons, List.map_nil, inRow_simplify hs, inRow_simplify ht]
  have htidy := tidy_preferring hs hu ht
  unfold preferring at htidy ⊢
  split at htidy
  · rename_i alts o b
    split_ifs at htidy ⊢ with ho
    · obtain rfl : o = .once := eq_once_of_isOnce ho
      obtain rfl : b = false := hu
      have hne : (alts.map (List.map simplify)).map inRow ≠ [] := by
        simpa using (filled_composite.1 hf).1
      have hsim : (composite alts .once false).simplify
          = oneOf ((alts.map (List.map simplify)).map inRow) := simplify_open hs
      rw [hsim, oneOf_cons _ hne, ← inRow_simplify ht]
      exact simplify_open htidy
    · exact hpair
  · exact hpair

/-! ## Clauses -/

variable {g : Option Ignore}

theorem lowerAlternatives_append : ∀ {as bs : List (List Sentence)} {is js : List Item},
    lowerAlternatives g as = .ok is → lowerAlternatives g bs = .ok js →
    lowerAlternatives g (as ++ bs) = .ok (is ++ js)
  | [], _, _, _, ha, hb => by
    cases ha
    exact hb
  | ss :: as, bs, is, js, ha, hb => by
    rw [lowerAlternatives] at ha
    obtain ⟨row, hrow, ha⟩ := bind_eq_ok ha
    obtain ⟨i, hi, ha⟩ := bind_eq_ok ha
    obtain ⟨rest, hrest, ha⟩ := bind_eq_ok ha
    cases ha
    rw [List.cons_append, lowerAlternatives, hrow, lowerAlternatives_append hrest hb]
    simp only [bind, Except.bind, hi]
    rfl

theorem length_lowerAlternatives : ∀ {alts : List (List Sentence)} {is : List Item},
    lowerAlternatives g alts = .ok is → is.length = alts.length
  | [], _, h => by
    cases h
    rfl
  | ss :: alts, is, h => by
    rw [lowerAlternatives] at h
    obtain ⟨row, -, h⟩ := bind_eq_ok h
    obtain ⟨i, -, h⟩ := bind_eq_ok h
    obtain ⟨rest, hrest, h⟩ := bind_eq_ok h
    cases h
    rw [List.length_cons, List.length_cons, length_lowerAlternatives hrest]

theorem repeated_once (i : Item) : i.repeated g .once = i := by
  cases i
  rfl

theorem alternationItem_toPlan {is : List Item} (h : is ≠ []) :
    (alternationItem g is).map (·.toPlan g) = .ok (.combine .or (is.map (·.toPlan g))) := by
  match is with
  | [i] => rfl
  | i :: j :: is => rfl

/-- The plan of a composite that stands once: its only clause, or all of them. -/
theorem toPlan_once {alts : List (List Sentence)} {b : Bool} {is : List Item}
    (h : lowerAlternatives g alts = .ok is) (hne : alts ≠ []) :
    (composite alts .once b).toPlan g = .ok (.combine .or (is.map (·.toPlan g))) := by
  have his : is ≠ [] := by
    rintro rfl
    exact hne (List.eq_nil_of_length_eq_zero (length_lowerAlternatives h).symm)
  rw [← alternationItem_toPlan his, toPlan, lower, h]
  show ((alternationItem g is >>= fun i => pure (i.repeated g .once)).map _) = _
  simp only [repeated_once, bind_pure]

theorem isChoice_eq_false {s : Sentence} (h : s.isAlternation = false) : s.isChoice = false := by
  unfold isChoice
  split
  · exact h
  · rfl

theorem flattened_single {s : Sentence} (h : s.isAlternation = false) : flattened [s] = [[s]] := by
  refine flattened_eq_self ?_
  rintro t ht
  obtain rfl := List.singleton_inj.1 ht
  exact h

theorem lowerAlternatives_single {s : Sentence} {i : Item} (h : s.lower g = .ok i) :
    lowerAlternatives g [[s]] = .ok [i] := by
  simp only [lowerAlternatives, lowerSequence, h, bind, Except.bind, sequenceItem, pure,
    Except.pure]

/-- Among several alternatives, a sentence brings in the clauses of its plan, if it is a choice, and
else its plan. -/
theorem lowerAlternatives_flattened {s : Sentence} {p : Plan} (h : s.toPlan g = .ok p) :
    ∃ is, lowerAlternatives g (flattened [s]) = .ok is ∧
      if s.isChoice then p = .anyOf (is.map (·.toPlan g)) else is.map (·.toPlan g) = [p] := by
  cases hs : s.isAlternation with
  | false =>
    rw [flattened_single hs, isChoice_eq_false hs]
    rw [toPlan] at h
    cases hi : s.lower g with
    | error e =>
      rw [hi] at h
      cases h
    | ok i =>
      rw [hi] at h
      cases h
      exact ⟨[i], lowerAlternatives_single hi, rfl⟩
  | true =>
    obtain ⟨alt, alts, b, rfl⟩ := exists_of_isAlternation hs
    rw [flattened_alternation]
    cases his : lowerAlternatives g (alt :: alts) with
    | error e =>
      rw [toPlan, lower, his] at h
      cases h
    | ok is =>
      rw [toPlan_once his (List.cons_ne_nil alt alts)] at h
      have hl := length_lowerAlternatives his
      refine ⟨is, rfl, ?_⟩
      cases h
      cases alts with
      | nil =>
        obtain ⟨i, rfl⟩ := List.length_eq_one_iff.1 hl
        rfl
      | cons alt' alts =>
        refine Plan.combine_or_of_several ?_
        rw [List.length_map, hl]
        simp

/-- The plan of a choice between several sentences has the clauses that they bring in. -/
theorem toPlan_oneOf {ss : List Sentence} {is : List Item} (hss : 1 < ss.length)
    (h : lowerAlternatives g (ss.flatMap fun s => flattened [s]) = .ok is) :
    (oneOf ss).toPlan g = .ok (.anyOf (is.map (·.toPlan g))) := by
  have hl : 1 < (ss.flatMap fun s => flattened [s]).length := by
    have hle := length_le_flatMap_flattened (ss.map ([·]))
    rw [List.flatMap_map, List.length_map] at hle
    omega
  have his : 1 < (is.map (·.toPlan g)).length := by
    rw [List.length_map, length_lowerAlternatives h]
    exact hl
  have hne : (ss.flatMap fun s => flattened [s]) ≠ [] := by
    intro hnil
    rw [hnil] at hl
    simp at hl
  rw [oneOf_of_several hss, toPlan_once h hne, Plan.combine_or_of_several his]

end Sentence

/-! ## Compiling -/

namespace Chain

/-- An alternation of sentences, each with a pending occurrence, written from left to right. -/
def choice : Sentence × Occurrence → List (Sentence × Occurrence) → Chain
  | (s, o), [] => (ofSentence s).withPending o
  | (s, o), p :: ps => ((ofSentence s).withPending o).withRest .alternation (choice p ps)

/-- The operands are put before one another from the last to the first. Whatever they are, the
normal form is the choice between theirs. -/
theorem assemble_choice : ∀ (p : Sentence × Occurrence) (ps : List (Sentence × Occurrence)),
    (∀ q ∈ p :: ps, q.1.Joinable) → ∃ t, (choice p ps).assemble = .ok t ∧
      t.Tidy ∧ t.simplified = false ∧ t.Filled ∧
      t.simplify = oneOf (((p :: ps).map fun q => q.1.quantify q.2).map simplify)
  | (s, o), [], h => by
    obtain ⟨hr, hu, hf⟩ := h (s, o) List.mem_cons_self
    exact ⟨s.quantify o, rfl, tidy_quantify hr.tidy o, simplified_quantify hu o,
      filled_quantify hf o, rfl⟩
  | (s, o), p :: ps, h => by
    obtain ⟨⟨hr, hu, hf⟩, hrest⟩ := List.forall_mem_cons.1 h
    obtain ⟨t, ht, htt, htu, htf, hts⟩ := assemble_choice p ps hrest
    have hq := tidy_quantify hr.tidy o
    refine ⟨t.preferring (s.quantify o), ?_, tidy_preferring htt htu hq,
      simplified_preferring htu _, filled_preferring htf (filled_quantify hf o), ?_⟩
    · show ((choice p ps).assemble >>= fun t => t.addFirstOption (s.quantify o)) = _
      rw [ht]
      exact addFirstOption_filled htu htf _
    · rw [simplify_preferring htt htu htf hq, hts]
      exact oneOf_cons _ (List.cons_ne_nil _ _)

end Chain

namespace Compiler

/-- What a sentence brings into an alternation as an operand: the clauses of its own plan, if it
simplifies to a choice between several alternatives that stands once, and else its own plan. -/
def Contributes (k : Compiler) (s : Sentence) (clauses : List Plan) : Prop :=
  if s.simplify.isChoice then k.compile s = .ok (.anyOf clauses)
  else ∃ p, k.compile s = .ok p ∧ clauses = [p]

theorem exists_contributes (k : Compiler) {s : Sentence} (hf : s.Filled) :
    ∃ is, lowerAlternatives k.ignore (flattened [s.simplify]) = .ok is ∧
      k.Contributes s (is.map (·.toPlan k.ignore)) := by
  obtain ⟨p, hp⟩ := k.exists_compile hf
  obtain ⟨is, his, hc⟩ := lowerAlternatives_flattened (s := s.simplify) hp
  refine ⟨is, his, ?_⟩
  unfold Contributes
  split_ifs at hc ⊢
  · rw [hp, hc]
  · exact ⟨p, hp, hc⟩

theorem exists_contributions (k : Compiler) : ∀ {ss : List Sentence}, (∀ s ∈ ss, s.Filled) →
    ∃ is clauses,
      lowerAlternatives k.ignore ((ss.map simplify).flatMap fun s => flattened [s]) = .ok is ∧
      List.Forall₂ k.Contributes ss clauses ∧ is.map (·.toPlan k.ignore) = clauses.flatten
  | [], _ => ⟨[], [], rfl, .nil, rfl⟩
  | s :: ss, h => by
    obtain ⟨hs, hss⟩ := List.forall_mem_cons.1 h
    obtain ⟨is, his, hc⟩ := k.exists_contributes hs
    obtain ⟨js, clauses, hjs, hcs, hflat⟩ := k.exists_contributions hss
    refine ⟨is ++ js, is.map (·.toPlan k.ignore) :: clauses, ?_, .cons hc hcs, ?_⟩
    · rw [List.map_cons, List.flatMap_cons]
      exact lowerAlternatives_append his hjs
    · rw [List.map_append, List.flatten_cons, hflat]

/-- An alternation of two or more operands is compiled to a disjunction of what they bring in, in
the order they are written. -/
theorem compileChain_choice (k : Compiler) (p q : Sentence × Occurrence)
    (ps : List (Sentence × Occurrence)) (h : ∀ r ∈ p :: q :: ps, r.1.Joinable) :
    ∃ clauses,
      List.Forall₂ k.Contributes ((p :: q :: ps).map fun r => r.1.quantify r.2) clauses ∧
      k.compileChain (Chain.choice p (q :: ps)) = .ok (.anyOf clauses.flatten) := by
  obtain ⟨t, ht, -, -, -, hts⟩ := Chain.assemble_choice p (q :: ps) h
  have hfilled : ∀ s ∈ (p :: q :: ps).map fun r => r.1.quantify r.2, s.Filled := by
    intro s hs
    obtain ⟨r, hr, rfl⟩ := List.mem_map.1 hs
    exact filled_quantify (h r hr).filled r.2
  obtain ⟨is, clauses, his, hcs, hflat⟩ := k.exists_contributions hfilled
  refine ⟨clauses, hcs, ?_⟩
  rw [compileChain, ht]
  show t.simplify.toPlan k.ignore = _
  rw [hts, toPlan_oneOf (by simp) his, hflat]

/-- Operands that are repeated: names, and names or places. -/
def repeatedOperands : List (Sentence × Occurrence) :=
  [(repeatedName, Chain.placesThenName.pending), (nameOrPlace, Chain.placesThenName.pending)]

theorem compileChain_choice_namesOrPlaces :
    (∀ r ∈ (nameOrPlace, .once) :: repeatedOperands, r.1.Joinable) ∧
      ∃ clauses,
        List.Forall₂ (Contributes {})
          (((nameOrPlace, .once) :: repeatedOperands).map fun r => r.1.quantify r.2) clauses ∧
        compileChain {} (Chain.choice (nameOrPlace, .once) repeatedOperands)
          = .ok (.anyOf clauses.flatten) := by
  have hjn : repeatedName.Joinable := ⟨reachable_of_cleared rfl, rfl, by decide⟩
  have hjp : nameOrPlace.Joinable := ⟨reachable_of_cleared rfl, rfl, by decide⟩
  have hj : ∀ r ∈ (nameOrPlace, .once) :: repeatedOperands, r.1.Joinable := by
    simp [repeatedOperands, hjn, hjp]
  exact ⟨hj, compileChain_choice {} _ _ _ hj⟩

-- a choice that stands once is opened, a repeated one is not
example : compileChain {} (Chain.choice (nameOrPlace, .once)
      [(nameOrPlace, Chain.placesThenName.pending)])
    = .ok (.anyOf [.recurrence (.annotated "text" "name") 1 2 none, .annotated "text" "place",
        .recurrence (.anyOf [.recurrence (.annotated "text" "name") 1 2 none,
          .annotated "text" "place"]) 2 3 none]) := by cbv

end Compiler

end CorpusQuery
