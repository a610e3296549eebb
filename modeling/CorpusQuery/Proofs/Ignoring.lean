import CorpusQuery.Proofs.WellFormed

/-!
# What a plan ignores

Lowering hands what is ignored down through items, phrases, alternatives and occurrences. It makes
no difference to anything but the sequences and recurrences of the plan, and reaches all of these:
a sentence of leaves that is lowered with an ignore clause gives the plan that it has without one,
with the clause in every place that has room for it (`Plan.ignoring`), or fails in the same way
(`Sentence.lower_ignoring`, `Compiler.compile_withIgnore`).
-/

namespace CorpusQuery

open Plan (Item Ignore)

namespace Plan

section Ignoring

variable (g : Ignore)

mutual

/-- The plan in which every sequence and every recurrence ignores `g`. -/
def ignoring : Plan → Plan
  | .allOf ps => .allOf (ignoringAll ps)
  | .anyOf ps => .anyOf (ignoringAll ps)
  | .without p q => .without (ignoring p) (ignoring q)
  | .sequence is _ => .sequence (ignoringItems is) (some g)
  | .recurrence p lo hi _ => .recurrence (ignoring p) lo hi (some g)
  | .startOf p => .startOf (ignoring p)
  | .endOf p => .endOf (ignoring p)
  | p => p

def ignoringAll : List Plan → List Plan
  | [] => []
  | p :: ps => ignoring p :: ignoringAll ps

def ignoringItems : List Item → List Item
  | [] => []
  | ⟨p, optional⟩ :: is => ⟨ignoring p, optional⟩ :: ignoringItems is

end

/-- The item with what is ignored set in its plan. -/
def Item.ignoring (i : Item) : Item :=
  { i with plan := i.plan.ignoring g }

theorem ignoringAll_eq : ∀ ps : List Plan, ignoringAll g ps = ps.map (ignoring g)
  | [] => rfl
  | p :: ps => by rw [ignoringAll, ignoringAll_eq ps, List.map_cons]

theorem ignoringItems_eq : ∀ is : List Item, ignoringItems g is = is.map (Item.ignoring g)
  | [] => rfl
  | ⟨p, b⟩ :: is => by rw [ignoringItems, ignoringItems_eq is, List.map_cons, Item.ignoring]

/-- A plan whose sequences and recurrences ignore `g` already stays as it is. -/
theorem WellFormed.ignoring {p : Plan} (h : p.WellFormed (some g)) : p.ignoring g = p := by
  induction h with
  | @leaf p h => cases p <;> first | rfl | cases h
  | allOf _ _ ih => rw [Plan.ignoring, ignoringAll_eq, List.map_congr_left ih, List.map_id']
  | anyOf _ _ ih => rw [Plan.ignoring, ignoringAll_eq, List.map_congr_left ih, List.map_id']
  | without _ _ ihp ihq => rw [Plan.ignoring, ihp, ihq]
  | @sequence is _ _ _ ih =>
    have hi : ∀ i ∈ is, i.ignoring g = i := by
      rintro ⟨p, b⟩ hi
      exact congrArg (Item.mk · b) (ih _ hi)
    rw [Plan.ignoring, ignoringItems_eq, List.map_congr_left hi, List.map_id']
  | recurrence _ _ _ _ ih => rw [Plan.ignoring, ih]
  | startOf _ ih => rw [Plan.ignoring, ih]
  | endOf _ ih => rw [Plan.ignoring, ih]

namespace Item

theorem ignoring_sequence (is : List Item) (h : Option Ignore) (b : Bool) :
    ignoring g ⟨.sequence is h, b⟩ = ⟨.sequence (is.map (ignoring g)) (some g), b⟩ := by
  rw [ignoring, Plan.ignoring, ignoringItems_eq]

theorem ignoring_anyOf (ps : List Plan) (b : Bool) :
    ignoring g ⟨.anyOf ps, b⟩ = ⟨.anyOf (ps.map (Plan.ignoring g)), b⟩ := by
  rw [ignoring, Plan.ignoring, ignoringAll_eq]

theorem toPlan_ignoring (i : Item) :
    (i.ignoring g).toPlan (some g) = (i.toPlan none).ignoring g := by
  obtain ⟨p, optional⟩ := i
  cases optional <;> rfl

theorem repeated_ignoring (o : Occurrence) (i : Item) :
    (i.ignoring g).repeated (some g) o = (i.repeated none o).ignoring g := by
  unfold repeated
  rw [toPlan_ignoring]
  split_ifs <;> rfl

end Item

end Ignoring

end Plan

variable (g : Ignore)

/-! ## Phrases -/

theorem Element.lower_ignoring {e : Element} (h : e.content.OfLeaves) :
    e.lower (some g) = (e.lower none).ignoring g := by
  have hc : e.content.toPlan.ignoring g = e.content.toPlan :=
    Plan.WellFormed.ignoring g (Content.wellFormed_toPlan h)
  rw [lower, lower, ← Item.repeated_ignoring, Item.ignoring, hc]

/-! ## Sentences -/

namespace Sentence

theorem sequenceItem_ignoring (is : List Item) :
    sequenceItem (some g) (is.map (Item.ignoring g))
      = (sequenceItem none is).map (Item.ignoring g) := by
  match is with
  | [] => rfl
  | [i] => rfl
  | i :: j :: is =>
    refine congrArg Except.ok ?_
    rw [Item.ignoring_sequence, ← List.map_cons, List.all_map]
    rfl

theorem phrase_ignoring {p : Phrase} (h : ∀ e ∈ p.elements, e.content.OfLeaves) :
    p.lower (some g) = (p.lower none).map (Item.ignoring g) := by
  by_cases hp : p.elements = []
  · simp [Phrase.lower, hp, Except.map]
  · have hes : p.elements.map (Element.lower (some g))
        = (p.elements.map (Element.lower none)).map (Item.ignoring g) := by
      rw [List.map_map]
      exact List.map_congr_left fun e he => Element.lower_ignoring g (h e he)
    rw [phrase_lower_eq _ hp, phrase_lower_eq _ hp, ← sequenceItem_ignoring]
    exact congrArg (sequenceItem (some g)) hes

theorem alternationItem_ignoring (is : List Item) :
    alternationItem (some g) (is.map (Item.ignoring g))
      = (alternationItem none is).map (Item.ignoring g) := by
  match is with
  | [] => rfl
  | [i] => rfl
  | i :: j :: is =>
    refine congrArg Except.ok ?_
    rw [Item.ignoring_anyOf, ← List.map_cons, List.map_map, List.map_map]
    exact congrArg (fun ps => Item.mk (.anyOf ps) false)
      (List.map_congr_left fun k _ => Item.toPlan_ignoring g k)

/-- What is done next to a changed result changes the whole result. -/
theorem bind_of_map {α β γ δ : Type} {f : α → β} {h : γ → δ} {x : Except Error α}
    {y : Except Error β} {k : α → Except Error γ} {l : β → Except Error δ} (hy : y = x.map f)
    (hl : ∀ a, l (f a) = (k a).map h) : y >>= l = (x >>= k).map h := by
  subst hy
  cases x with
  | error e => rfl
  | ok a => exact hl a

mutual

theorem lower_ignoring : ∀ {s : Sentence}, s.OfLeaves →
    s.lower (some g) = (s.lower none).map (Item.ignoring g)
  | .basic p o b, h => by
    have hp : ∀ e ∈ p.elements, e.content.OfLeaves := by
      intro e he
      exact h e (by rwa [elements_basic])
    rw [lower, lower, phrase_ignoring g hp]
    cases p.lower none with
    | error e => rfl
    | ok i => exact congrArg Except.ok (Item.repeated_ignoring g o i)
  | .composite alts o b, h => by
    rw [lower, lower]
    refine bind_of_map (lowerAlternatives_ignoring h.member) fun is => ?_
    refine bind_of_map (alternationItem_ignoring g is) fun i => ?_
    exact congrArg Except.ok (Item.repeated_ignoring g o i)

theorem lowerAlternatives_ignoring : ∀ {alts : List (List Sentence)},
    (∀ ss ∈ alts, ∀ s ∈ ss, s.OfLeaves) →
    lowerAlternatives (some g) alts = (lowerAlternatives none alts).map (List.map (Item.ignoring g))
  | [], _ => rfl
  | ss :: alts, h => by
    obtain ⟨hss, halts⟩ := List.forall_mem_cons.1 h
    rw [lowerAlternatives, lowerAlternatives]
    refine bind_of_map (lowerSequence_ignoring hss) fun is => ?_
    refine bind_of_map (sequenceItem_ignoring g is) fun i => ?_
    exact bind_of_map (lowerAlternatives_ignoring halts) fun rest => rfl

theorem lowerSequence_ignoring : ∀ {ss : List Sentence}, (∀ s ∈ ss, s.OfLeaves) →
    lowerSequence (some g) ss = (lowerSequence none ss).map (List.map (Item.ignoring g))
  | [], _ => rfl
  | s :: ss, h => by
    obtain ⟨hs, hss⟩ := List.forall_mem_cons.1 h
    rw [lowerSequence, lowerSequence]
    refine bind_of_map (lower_ignoring hs) fun i => ?_
    exact bind_of_map (lowerSequence_ignoring hss) fun rest => rfl

end

theorem toPlan_ignoring {s : Sentence} (h : s.OfLeaves) :
    s.toPlan (some g) = (s.toPlan none).map (Plan.ignoring g) := by
  rw [toPlan, toPlan, lower_ignoring g h]
  cases s.lower none with
  | error e => rfl
  | ok i => exact congrArg Except.ok (Item.toPlan_ignoring g i)

end Sentence

namespace Compiler

/-- Compiling with an ignore clause gives the plan that compiling without one gives, with the clause
in every sequence and every recurrence, or the same error. -/
theorem compile_withIgnore (k : Compiler) {s : Sentence} (h : s.OfLeaves) :
    (k.withIgnore g).compile s = ({ k with ignore := none }.compile s).map (Plan.ignoring g) :=
  Sentence.toPlan_ignoring g h.simplify

/-- One name or two, or a name and a place of which either may be missing; or nothing. -/
def namesOrPlace : Sentence :=
  .composite
    [[.ofPhrase ⟨[⟨.group (.named "text" "name" .full), .once⟩,
        ⟨.group (.named "text" "name" .full), .atMostOnce⟩], false⟩],
      [.ofPhrase ⟨[⟨.group (.named "text" "name" .full), .atMostOnce⟩,
        ⟨.group (.named "text" "place" .full), .atMostOnce⟩], false⟩]]
    .atMostOnce false

/-- Its plan if nothing is ignored. -/
def namesOrPlacePlan : Plan :=
  .sequence [⟨.anyOf [.recurrence (.annotated "text" "name") 1 2 none,
    .sequence [⟨.sequence [⟨.annotated "text" "name", true⟩,
      ⟨.annotated "text" "place", true⟩] none, true⟩] none], true⟩] none

theorem compile_withIgnore_names :
    namesOrPlace.OfLeaves ∧ compile {} namesOrPlace = .ok namesOrPlacePlan ∧
      (withIgnore {} ⟨.annotated "text" "comma", 2⟩).compile namesOrPlace
        = .ok (namesOrPlacePlan.ignoring ⟨.annotated "text" "comma", 2⟩) := by
  have h : namesOrPlace.OfLeaves := by
    intro e he
    rw [namesOrPlace, Sentence.mem_elements_composite] at he
    simp only [List.mem_cons, List.not_mem_nil, or_false, exists_eq_or_imp, exists_eq_left,
      Sentence.ofPhrase, Sentence.elements_basic] at he
    rcases he with (rfl | rfl) | rfl | rfl <;> rfl
  have hp : compile {} namesOrPlace = .ok namesOrPlacePlan := by cbv
  refine ⟨h, hp, ?_⟩
  rw [compile_withIgnore ⟨.annotated "text" "comma", 2⟩ {} h]
  exact congrArg (Except.map (Plan.ignoring ⟨.annotated "text" "comma", 2⟩)) hp

end Compiler

end CorpusQuery
