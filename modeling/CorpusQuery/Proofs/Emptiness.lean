import CorpusQuery.Proofs.WellFormed

/-!
# Sentences that nothing may stand for

Words and groups never match the empty row (`Content.nil_notMem_language`), so a phrase does if each
of its elements may be left out, a sequence if each of its members may, alternatives if one of them
may. `Sentence.isOptional` asks the same, but for alternatives, which do not count as optional when
there are several. What it overlooks for that reason (`Sentence.Overlooked`) is all that it gets
wrong (`Sentence.isOptional_iff_nil_mem_toPlan`).
-/

namespace CorpusQuery

open Plan (Ignore)

/-! ## The empty row -/

section EmptyRow

variable {α : Type*} {l : Language α}

theorem nil_mem_mul {l m : Language α} : [] ∈ l * m ↔ [] ∈ l ∧ [] ∈ m := by
  simp [Language.mem_mul]

theorem nil_mem_prod : ∀ {ls : List (Language α)}, [] ∈ ls.prod ↔ ∀ l ∈ ls, [] ∈ l
  | [] => by simp
  | l :: ls => by rw [List.prod_cons, nil_mem_mul, nil_mem_prod, List.forall_mem_cons]

theorem mem_sum {w : List α} : ∀ {ls : List (Language α)}, w ∈ ls.sum ↔ ∃ l ∈ ls, w ∈ l
  | [] => by simp [Language.notMem_zero]
  | l :: ls => by rw [List.sum_cons, Language.mem_add, mem_sum, List.exists_mem_cons_iff]

theorem nil_notMem_single (a : α) : [] ∉ ({[a]} : Language α) :=
  fun h => List.cons_ne_nil a [] (Set.mem_singleton_iff.1 h).symm

theorem nil_mem_pow {n : ℕ} (hn : 1 ≤ n) : [] ∈ l ^ n ↔ [] ∈ l := by
  rw [← List.prod_replicate, nil_mem_prod]
  simp [List.mem_replicate, Nat.ne_of_gt hn]

theorem nil_mem_turns (o : Occurrence) : [] ∈ turns l o.counts ↔ o.optional = true ∨ [] ∈ l := by
  have h : [] ∈ turns l (between o.least o.most) ↔ [] ∈ l := by
    rw [mem_turns]
    constructor
    · rintro ⟨n, ⟨hn, -⟩, h⟩
      exact (nil_mem_pow (o.one_le_least.trans hn)).1 h
    · exact fun h => ⟨o.least, o.least_mem_between, (nil_mem_pow o.one_le_least).2 h⟩
  rw [turns_counts]
  split_ifs with ho
  · simp [Language.mem_add, Language.mem_one, ho]
  · simp [ho, h]

end EmptyRow

/-! ## Words and groups -/

/-- A plan that is well formed whatever is ignored has disjunctions only around elementary plans. -/
theorem Plan.nil_notMem_language {p : Plan} (h : ∀ g, p.WellFormed g) : [] ∉ p.language := by
  -- a sequence or a recurrence cannot ignore both this and nothing
  have other := h (some ⟨.everything "", 0⟩)
  induction h none with
  | @leaf p hl => cases p <;> first | exact nil_notMem_single _ | cases hl
  | allOf | without | startOf | endOf => exact nil_notMem_single _
  | @anyOf ps _ _ ih =>
    rw [language, languageOfAny_eq, mem_sum]
    simp only [List.mem_map, exists_exists_and_eq_and, not_exists, not_and]
    intro p hp
    have hps : ∀ g, p.WellFormed g := by
      intro g
      cases h g with
      | leaf hl => cases hl
      | anyOf _ clauses => exact clauses p hp
    exact ih p hp hps (hps _)
  | sequence => cases other with | leaf hl => cases hl
  | recurrence => cases other with | leaf hl => cases hl

theorem Content.nil_notMem_language {c : Content} (h : c.OfLeaves) : [] ∉ c.toPlan.language :=
  Plan.nil_notMem_language fun _ => wellFormed_toPlan h

namespace Sentence

/-! ## Optional sentences -/

theorem allOptional_iff {ss : List Sentence} :
    allOptional ss = true ↔ ∀ s ∈ ss, s.isOptional = true := by
  induction ss with
  | nil => simp [allOptional]
  | cons s ss ih => rw [allOptional, Bool.and_eq_true, ih, List.forall_mem_cons]

theorem isOptional_alternation {alts : List (List Sentence)} (h : 1 < alts.length)
    (o : Occurrence) (b : Bool) : (composite alts o b).isOptional = o.optional := by
  rcases alts with _ | ⟨ss, _ | ⟨ss', alts⟩⟩
  · simp at h
  · simp at h
  · rfl

theorem isOptional_row {ss : List Sentence} {o : Occurrence} {b : Bool} :
    (composite [ss] o b).isOptional = true
      ↔ o.optional = true ∨ ∀ s ∈ ss, s.isOptional = true := by
  rw [isOptional, Bool.or_eq_true, allOptional_iff]

/-- The sentence does not count as optional, but only for some alternation in it, one alternative of
which nothing may stand for. -/
inductive Overlooked : Sentence → Prop
  | alternation {alts o b ss} (several : 1 < alts.length) (mandatory : o.optional = false)
      (mem : ss ∈ alts) (elements : ∀ s ∈ ss, s.isOptional = false → Overlooked s) :
      Overlooked (.composite alts o b)
  | row {ss o b} (mandatory : o.optional = false) (hidden : ∃ s ∈ ss, s.isOptional = false)
      (elements : ∀ s ∈ ss, s.isOptional = false → Overlooked s) : Overlooked (.composite [ss] o b)

theorem Overlooked.isOptional_eq_false {s : Sentence} (h : s.Overlooked) : s.isOptional = false := by
  cases h with
  | alternation several mandatory => rw [isOptional_alternation several, mandatory]
  | row mandatory hidden =>
    obtain ⟨s, hs, ho⟩ := hidden
    rw [Bool.eq_false_iff, ne_eq, isOptional_row]
    simp only [mandatory, Bool.false_eq_true, false_or, not_forall]
    exact ⟨s, hs, by simp [ho]⟩

theorem overlooked_alternation {alts : List (List Sentence)} {o : Occurrence} {b : Bool}
    (h : 1 < alts.length) : (composite alts o b).Overlooked ↔
      o.optional = false ∧ ∃ ss ∈ alts, ∀ s ∈ ss, s.isOptional = false → s.Overlooked := by
  constructor
  · rintro (⟨-, ho, hm, he⟩ | _)
    · exact ⟨ho, _, hm, he⟩
    · simp at h
  · rintro ⟨ho, ss, hm, he⟩
    exact .alternation h ho hm he

theorem overlooked_row {ss : List Sentence} {o : Occurrence} {b : Bool} :
    (composite [ss] o b).Overlooked ↔ o.optional = false ∧ (∃ s ∈ ss, s.isOptional = false) ∧
      ∀ s ∈ ss, s.isOptional = false → s.Overlooked := by
  constructor
  · rintro (⟨h, -⟩ | ⟨ho, hh, he⟩)
    · simp at h
    · exact ⟨ho, hh, he⟩
  · rintro ⟨ho, hh, he⟩
    exact .row ho hh he

/-- Counted or overlooked, a composite may be left out if all of an alternative may. -/
theorem isOptional_or_overlooked {alts : List (List Sentence)} (hne : alts ≠ []) {o : Occurrence}
    {b : Bool} : (composite alts o b).isOptional = true ∨ (composite alts o b).Overlooked ↔
      o.optional = true ∨ ∃ ss ∈ alts, ∀ s ∈ ss, s.isOptional = false → s.Overlooked := by
  rcases alts with _ | ⟨ss, _ | ⟨ss', alts⟩⟩
  · exact absurd rfl hne
  · -- a row counts as optional by itself, unless one of its members does not
    have hsome : (∃ s ∈ ss, s.isOptional = false) ↔ ¬ ∀ s ∈ ss, s.isOptional = true := by simp
    have hall : (∀ s ∈ ss, s.isOptional = true) →
        ∀ s ∈ ss, s.isOptional = false → s.Overlooked := by
      intro h s hs ho
      rw [h s hs] at ho
      cases ho
    rw [isOptional_row, overlooked_row, hsome]
    simp only [List.mem_singleton, exists_eq_left]
    cases o.optional <;> tauto
  · have hl : 1 < (ss :: ss' :: alts).length := by simp
    rw [isOptional_alternation hl, overlooked_alternation hl]
    cases o.optional <;> simp

/-! ## The language of a sentence -/

theorem nil_mem_language_basic {p : Phrase} {o : Occurrence} {b : Bool}
    (hf : (basic p o b).Filled) (h : (basic p o b).OfLeaves) :
    [] ∈ (basic p o b).language ↔ (basic p o b).isOptional = true := by
  have he : ∀ e ∈ p.elements, ([] ∈ e.language ↔ e.occurrence.optional = true) := by
    intro e he
    have hc := Content.nil_notMem_language (h e (by rwa [elements_basic]))
    rw [Element.language, nil_mem_turns, or_iff_left hc]
  have hne : p.isEmpty = false := by
    cases hf with
    | basic hp => exact List.isEmpty_eq_false_iff.2 hp
  rw [language, fold_basic, isOptional, Bool.or_eq_true, Phrase.isOptional, hne]
  refine (nil_mem_turns o).trans (or_congr_right (nil_mem_prod.trans ?_))
  simpa [languages] using forall₂_congr he

theorem nil_mem_language_composite {alts : List (List Sentence)} {o : Occurrence} {b : Bool} :
    [] ∈ (composite alts o b).language
      ↔ o.optional = true ∨ ∃ ss ∈ alts, ∀ s ∈ ss, [] ∈ s.language := by
  rw [language, fold_composite]
  refine (nil_mem_turns o).trans (or_congr_right (mem_sum.trans ?_))
  simp only [List.mem_map, exists_exists_and_eq_and, foldRow]
  refine exists_congr fun ss => and_congr_right fun _ => nil_mem_prod.trans ?_
  simp only [List.forall_mem_map]
  rfl

theorem nil_mem_language : ∀ {s : Sentence}, s.Filled → s.OfLeaves →
    ([] ∈ s.language ↔ s.isOptional = true ∨ s.Overlooked) := by
  refine @induction _ (fun p o b hf h => ?_) fun alts o b ih hf h => ?_
  · have hn : ¬ (basic p o b).Overlooked := nofun
    rw [or_iff_left hn]
    exact nil_mem_language_basic hf h
  · obtain ⟨hne, hss⟩ := filled_composite.1 hf
    have hs : ∀ ss ∈ alts, ∀ s ∈ ss,
        ([] ∈ s.language ↔ (s.isOptional = false → s.Overlooked)) := by
      intro ss hm s hms
      rw [ih ss hm s hms ((hss ss hm).2 s hms) (h.member ss hm s hms), or_iff_not_imp_left,
        Bool.not_eq_true]
    rw [nil_mem_language_composite, isOptional_or_overlooked hne]
    exact or_congr_right
      (exists_congr fun ss => and_congr_right fun hm => forall₂_congr (hs ss hm))

/-- Among the sentences of leaves that have a plan, those that count as optional are the ones
nothing may stand for, except for the overlooked ones. -/
theorem isOptional_iff_nil_mem_toPlan {s : Sentence} (h : s.OfLeaves) {g : Option Ignore} {p : Plan}
    (hp : s.toPlan g = .ok p) :
    (s.isOptional = true ↔ [] ∈ p.language ∧ ¬ s.Overlooked) ∧
      (s.Overlooked → [] ∈ p.language) := by
  obtain ⟨hf, hl⟩ := filled_of_toPlan hp
  rw [hl, nil_mem_language hf h]
  refine ⟨⟨fun ho => ⟨.inl ho, fun hn => ?_⟩, fun ⟨ho, hn⟩ => ho.resolve_right hn⟩, .inr⟩
  rw [hn.isOptional_eq_false] at ho
  cases ho

/-- A name that may be missing, or a place. -/
def maybeNameOrPlace : Sentence :=
  ofAlternatives [
    [ofPhrase ⟨[.ofGroup (.named "text" "name" .full) .atMostOnce], false⟩],
    [ofPhrase ⟨[.ofGroup (.named "text" "place" .full) .once], false⟩]]

/-- Its plan, which stands for the empty row too. -/
def maybeNameOrPlacePlan : Plan :=
  .anyOf [.sequence [⟨.annotated "text" "name", true⟩] none, .annotated "text" "place"]

theorem ofLeaves_maybeNameOrPlace : maybeNameOrPlace.OfLeaves := by
  intro e he
  rw [maybeNameOrPlace, ofAlternatives, mem_elements_composite] at he
  simp only [ofPhrase, List.mem_cons, List.not_mem_nil, or_false, exists_eq_or_imp, exists_eq_left,
    elements_basic] at he
  rcases he with rfl | rfl <;> rfl

theorem isOptional_iff_nil_mem_toPlan_nameOrPlace :
    let s := maybeNameOrPlace
    let q := s.occurring .atMostOnce
    (∃ p, s.toPlan none = .ok p ∧ s.isOptional = false ∧ s.Overlooked ∧ [] ∈ p.language) ∧
      ∃ p, q.toPlan none = .ok p ∧ q.isOptional = true ∧ ¬ q.Overlooked ∧ [] ∈ p.language := by
  intro s q
  have hs : s.Overlooked := by
    refine .alternation (by decide) rfl List.mem_cons_self fun t ht ho => ?_
    rw [List.mem_singleton.1 ht] at ho
    cases ho
  have hq : q.OfLeaves := fun e he => ofLeaves_maybeNameOrPlace e he
  obtain ⟨-, hn⟩ := isOptional_iff_nil_mem_toPlan (g := none) ofLeaves_maybeNameOrPlace rfl
  obtain ⟨hm, hqs⟩ := (isOptional_iff_nil_mem_toPlan (g := none) hq rfl).1.1 rfl
  exact ⟨⟨_, rfl, rfl, hs, hn hs⟩, _, rfl, rfl, hqs, hm⟩

/-- The name may be missing, and so all of the match, but this does not count. -/
theorem isOptional_maybeNameOrPlace :
    maybeNameOrPlace.OfLeaves ∧ maybeNameOrPlace.toPlan none = .ok maybeNameOrPlacePlan ∧
      [] ∈ maybeNameOrPlacePlan.language ∧ maybeNameOrPlace.isOptional = false := by
  refine ⟨ofLeaves_maybeNameOrPlace, rfl, ?_, rfl⟩
  rw [maybeNameOrPlacePlan, Plan.language, Plan.languageOfAny_eq, mem_sum]
  refine ⟨_, List.mem_cons_self, ?_⟩
  rw [Plan.language, Plan.languageOfRow_eq, nil_mem_prod]
  simp [Plan.Item.language, Language.mem_add, Language.mem_one]

end Sentence

end CorpusQuery
