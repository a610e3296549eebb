import CorpusQuery.Proofs.Algebra
import CorpusQuery.Proofs.Language
import CorpusQuery.Sentence.Lowering

/-!
# Lowering keeps the language

A sentence stands for rows of elementary plans in its own right (`Sentence.language`), and it may
have places that hold nothing (`Sentence.vacancy`). Lowering gives a plan of that language or fails
at the first vacancy (`Sentence.lower_language`), so that the sentences that have a plan are the
filled ones (`Sentence.toPlan_filled`).
-/

namespace CorpusQuery

open Plan (Item Ignore)

/-- The rows of the content, as often as the occurrence says. -/
def Element.language (e : Element) : Language Plan :=
  turns e.content.toPlan.language e.occurrence.counts

namespace Sentence

/-! ## Meaning of a sentence -/

/-- Phrases and sequences stand for rows of their parts put together, alternatives for the rows of
any of them. -/
def languages : Algebra (Language Plan) where
  element := Element.language
  phrase := List.prod
  sequence := List.prod
  alternatives := List.sum
  occurring o l := turns l o.counts

/-- The rows of elementary plans that the sentence stands for. -/
def language (s : Sentence) : Language Plan :=
  s.fold languages

/-- The first vacancy among the members of a row, or the row itself if it has no members. -/
def firstVacancy (v : Vacancy) (ms : List (Option Vacancy)) : Option Vacancy :=
  (ms.findSome? id).or (if ms.isEmpty then some v else none)

/-- The first vacancy of a sentence, part by part. -/
def vacancies : Algebra (Option Vacancy) where
  element _ := none
  phrase := firstVacancy .phrase
  sequence := firstVacancy .sequence
  alternatives := firstVacancy .composite
  occurring _ v := v

/-- The first place of the sentence that holds nothing. -/
def vacancy (s : Sentence) : Option Vacancy :=
  s.fold vacancies

/-- No phrase, alternative or composite of the sentence is empty. -/
inductive Filled : Sentence → Prop
  | basic {p o b} : p.elements ≠ [] → Filled (.basic p o b)
  | composite {alts o b} : alts ≠ [] → (∀ ss ∈ alts, ss ≠ []) → (∀ ss ∈ alts, ∀ s ∈ ss, Filled s) →
      Filled (.composite alts o b)

theorem findSome?_cons_or (m : Option Vacancy) (ms : List (Option Vacancy)) :
    (m :: ms).findSome? id = m.or (ms.findSome? id) := by
  cases m <;> rfl

theorem firstVacancy_eq_none {v : Vacancy} {ms : List (Option Vacancy)} :
    firstVacancy v ms = none ↔ ms ≠ [] ∧ ∀ m ∈ ms, m = none := by
  cases ms <;> simp [firstVacancy]

theorem filled_composite {alts : List (List Sentence)} {o : Occurrence} {b : Bool} :
    (composite alts o b).Filled ↔ alts ≠ [] ∧ ∀ ss ∈ alts, ss ≠ [] ∧ ∀ s ∈ ss, s.Filled := by
  constructor
  · rintro (_ | ⟨h, hss, hs⟩)
    exact ⟨h, fun ss m => ⟨hss ss m, hs ss m⟩⟩
  · rintro ⟨h, hss⟩
    exact .composite h (fun ss m => (hss ss m).1) fun ss m => (hss ss m).2

theorem vacancy_eq_none : ∀ {s : Sentence}, s.vacancy = none ↔ s.Filled := by
  refine @induction _ (fun p o b => ?_) fun alts o b ih => ?_
  · rw [vacancy, fold_basic]
    refine firstVacancy_eq_none.trans ⟨fun h => .basic (by simpa using h.1), ?_⟩
    rintro (⟨h⟩ | _)
    exact ⟨by simpa using h, by simp [vacancies]⟩
  · rw [vacancy, fold_composite, filled_composite]
    refine firstVacancy_eq_none.trans ?_
    simp only [ne_eq, List.map_eq_nil_iff, List.forall_mem_map]
    refine and_congr_right fun _ => forall₂_congr fun ss hss => firstVacancy_eq_none.trans ?_
    simp only [ne_eq, List.map_eq_nil_iff, List.forall_mem_map]
    exact and_congr_right fun _ => forall₂_congr fun s hs => ih ss hss s hs

instance : DecidablePred Filled := fun _ => decidable_of_iff _ vacancy_eq_none

/-! ## Lowering -/

/-- The value, unless there is a vacancy. -/
def unlessVacant {α : Type*} (v : Option Vacancy) (a : α) : Except Error α :=
  match v with
  | none => .ok a
  | some v => .error (.nothingToLower v)

/-- A result that is told by a vacancy is a value of that meaning or the error. -/
theorem ok_or_error {α β : Type} {x : Except Error β} {f : β → α} {v : Option Vacancy} {a : α}
    (hx : x.map f = unlessVacant v a) :
    (v = none ∧ ∃ b, x = .ok b ∧ f b = a) ∨ ∃ w, v = some w ∧ x = .error (.nothingToLower w) := by
  cases x with
  | error e =>
    cases v with
    | none => cases hx
    | some w => exact .inr ⟨w, rfl, congrArg Except.error (Except.error.inj hx)⟩
  | ok b =>
    cases v with
    | none => exact .inl ⟨rfl, b, rfl, Except.ok.inj hx⟩
    | some w => cases hx

theorem bind_eq_ok {α β : Type} {x : Except Error α} {k : α → Except Error β} {b : β}
    (h : x >>= k = .ok b) : ∃ a, x = .ok a ∧ k a = .ok b := by
  cases x with
  | error e => cases h
  | ok a => exact ⟨a, rfl, h⟩

/-- What is read first decides about an error. -/
theorem map_bind {α β γ δ : Type} {x : Except Error β} {k : β → Except Error δ} {f : β → α}
    {g : δ → γ} {v w : Option Vacancy} {a : α} {c : γ} (hx : x.map f = unlessVacant v a)
    (hk : ∀ b, f b = a → (k b).map g = unlessVacant w c) :
    (x >>= k).map g = unlessVacant (v.or w) c := by
  rcases ok_or_error hx with ⟨rfl, b, rfl, hb⟩ | ⟨_, rfl, rfl⟩
  · exact hk b hb
  · rfl

theorem map_bind_pure {α β γ δ : Type} {x : Except Error β} {h : β → δ} {f : β → α}
    {g : δ → γ} {v : Option Vacancy} {a : α} {c : γ} (hx : x.map f = unlessVacant v a)
    (hh : ∀ b, f b = a → g (h b) = c) :
    (x >>= fun b => pure (h b)).map g = unlessVacant v c := by
  have := map_bind (k := fun b => pure (h b)) (g := g) (w := none) hx
    fun b hb => congrArg Except.ok (hh b hb)
  rwa [Option.or_none] at this

/-- A row of items, which is optional if all of them are. -/
theorem language_row (g : Option Ignore) (is : List Item) :
    Item.language ⟨.sequence is g, is.all (·.optional)⟩ = (is.map Item.language).prod := by
  rw [Item.language, Plan.language, Plan.languageOfRow_eq]
  split_ifs with h
  · -- the empty row is one of the rows already
    have h1 : (1 : Language Plan) ≤ (is.map Item.language).prod := by
      refine List.one_le_prod_of_one_le fun l hl => ?_
      obtain ⟨i, hi, rfl⟩ := List.mem_map.1 hl
      rw [Item.language, if_pos (List.all_eq_true.1 h i hi)]
      exact le_add_self
    rw [add_comm]
    exact (Language.le_iff _ _).1 h1
  · rfl

theorem sequenceItem_language (g : Option Ignore) (is : List Item) :
    (sequenceItem g is).map Item.language
      = unlessVacant (if is.isEmpty then some .sequence else none) (is.map Item.language).prod := by
  match is with
  | [] => rfl
  | [i] => simp [sequenceItem, Except.map, unlessVacant]
  | i :: j :: is => exact congrArg Except.ok (language_row g (i :: j :: is))

theorem alternationItem_language (g : Option Ignore) (is : List Item) :
    (alternationItem g is).map Item.language
      = unlessVacant (if is.isEmpty then some .composite else none) (is.map Item.language).sum := by
  match is with
  | [] => rfl
  | [i] => simp [alternationItem, Except.map, unlessVacant]
  | i :: j :: is =>
    refine congrArg Except.ok ?_
    rw [Item.language, if_neg Bool.false_ne_true, Plan.language, Plan.languageOfAny_eq,
      List.map_map]
    exact congrArg List.sum (List.map_congr_left fun i _ => Item.language_toPlan g i)

/-- A phrase with elements is lowered like an alternative. -/
theorem phrase_lower_eq (g : Option Ignore) {p : Phrase} (h : p.elements ≠ []) :
    p.lower g = sequenceItem g (p.elements.map (·.lower g)) := by
  obtain ⟨es, b⟩ := p
  obtain ⟨e, es, rfl⟩ := List.exists_cons_of_ne_nil h
  cases es with
  | nil => rfl
  | cons f es =>
    have ho : Phrase.isOptional ⟨e :: f :: es, b⟩
        = ((e :: f :: es).map (·.lower g)).all (·.optional) := by
      simp [Phrase.isOptional, Phrase.isEmpty, Element.lower, Item.repeated, Function.comp_def]
    show Except.ok (Item.mk _ _) = _
    rw [ho]
    rfl

theorem sequenceItem_of_phrase {g : Option Ignore} {p : Phrase} {i : Item}
    (h : p.lower g = .ok i) : sequenceItem g (p.elements.map (·.lower g)) = .ok i := by
  by_cases hp : p.elements = []
  · rw [Phrase.lower, hp] at h
    cases h
  · rwa [← phrase_lower_eq g hp]

theorem phrase_lower_language (g : Option Ignore) (p : Phrase) :
    (p.lower g).map Item.language
      = unlessVacant (if p.isEmpty then some .phrase else none)
        (p.elements.map Element.language).prod := by
  by_cases hp : p.elements = []
  · simp [Phrase.lower, Phrase.isEmpty, hp, Except.map, unlessVacant]
  · have he : ∀ e : Element, (e.lower g).language = e.language := fun e =>
      Item.language_repeated g e.occurrence ⟨e.content.toPlan, false⟩
    rw [phrase_lower_eq g hp, sequenceItem_language, List.map_map]
    simp [Phrase.isEmpty, hp, Function.comp_def, he]

mutual

/-- Lowering gives an item of the sentence's language, or fails at the first vacancy. -/
theorem lower_language (g : Option Ignore) :
    ∀ s : Sentence, (s.lower g).map Item.language = unlessVacant s.vacancy s.language
  | .basic p o b => by
    have hv : (basic p o b).vacancy = if p.isEmpty then some .phrase else none := by
      rw [vacancy, fold_basic]
      simp [vacancies, firstVacancy, Phrase.isEmpty]
    rw [hv]
    exact map_bind_pure (phrase_lower_language g p) fun i hi =>
      (Item.language_repeated g o i).trans (by rw [hi]; rfl)
  | .composite alts o b => by
    rw [vacancy, fold_composite, language, fold_composite]
    refine map_bind (lowerAlternatives_language g alts) fun is his => ?_
    have hlen : is.isEmpty = (alts.map (foldRow vacancies)).isEmpty := by
      rw [← List.isEmpty_map (f := Item.language), his, List.isEmpty_map, List.isEmpty_map]
    have h := alternationItem_language g is
    rw [his, hlen] at h
    exact map_bind_pure h fun i hi => (Item.language_repeated g o i).trans (by rw [hi]; rfl)

theorem lowerAlternatives_language (g : Option Ignore) : ∀ alts : List (List Sentence),
    (lowerAlternatives g alts).map (List.map Item.language)
      = unlessVacant ((alts.map (foldRow vacancies)).findSome? id) (alts.map (foldRow languages))
  | [] => rfl
  | ss :: alts => by
    have hv : foldRow vacancies ss = ((ss.map vacancy).findSome? id).or
        (if ss.isEmpty then some .sequence else none) := by
      rw [← List.isEmpty_map (f := vacancy)]
      rfl
    rw [List.map_cons, findSome?_cons_or, hv, Option.or_assoc]
    refine map_bind (lowerSequence_language g ss) fun is his => ?_
    have hlen : is.isEmpty = ss.isEmpty := by
      rw [← List.isEmpty_map (f := Item.language), his, List.isEmpty_map]
    have h := sequenceItem_language g is
    rw [his, hlen] at h
    refine map_bind h fun i hi => map_bind_pure (lowerAlternatives_language g alts)
      fun rest hrest => ?_
    rw [List.map_cons, hi, hrest, List.map_cons]
    rfl

theorem lowerSequence_language (g : Option Ignore) : ∀ ss : List Sentence,
    (lowerSequence g ss).map (List.map Item.language)
      = unlessVacant ((ss.map vacancy).findSome? id) (ss.map language)
  | [] => rfl
  | s :: ss => by
    rw [List.map_cons, findSome?_cons_or]
    refine map_bind (lower_language g s) fun i hi =>
      map_bind_pure (lowerSequence_language g ss) fun is his => ?_
    rw [List.map_cons, hi, his, List.map_cons]

end

theorem toPlan_language (g : Option Ignore) (s : Sentence) :
    (s.toPlan g).map Plan.language = unlessVacant s.vacancy s.language := by
  rw [← lower_language g s, toPlan]
  cases s.lower g with
  | error e => rfl
  | ok i => exact congrArg Except.ok (Item.language_toPlan g i)

theorem filled_of_toPlan {g : Option Ignore} {s : Sentence} {p : Plan} (hp : s.toPlan g = .ok p) :
    s.Filled ∧ p.language = s.language := by
  obtain ⟨hv, q, hq, hl⟩ | ⟨v, -, he⟩ := ok_or_error (toPlan_language g s)
  · obtain rfl := Except.ok.inj (hp.symm.trans hq)
    exact ⟨vacancy_eq_none.1 hv, hl⟩
  · rw [hp] at he
    cases he

/-- A filled sentence is lowered to a plan of its language, any other is refused for want of
something to lower. -/
theorem toPlan_filled (g : Option Ignore) (s : Sentence) :
    (s.Filled → ∃ p, s.toPlan g = .ok p ∧ p.language = s.language) ∧
      (¬ s.Filled → ∃ v, s.toPlan g = .error (.nothingToLower v)) := by
  rw [← vacancy_eq_none]
  rcases ok_or_error (toPlan_language g s) with ⟨hv, p, hp, hl⟩ | ⟨v, hv, hp⟩
  · exact ⟨fun _ => ⟨p, hp, hl⟩, fun hn => absurd hv hn⟩
  · exact ⟨fun hn => by simp [hv] at hn, fun _ => ⟨v, hp⟩⟩

end Sentence

end CorpusQuery
