import CorpusQuery.Proofs.Simplification

/-!
# The size of simplified plans

Phrases that simplification puts into one are lowered as a sequence of their own, even where they
stand among other parts of a sequence. So a plan can get larger. But such a sequence within a
sequence is all that is added: without those, plans never get larger (`Sentence.size_simplify`).
The measure (`Sentence.weights`) is an algebra over which every step of simplification is even or
goes down (`weights_tolerates`), and lowering gives a plan of just that size (`weighs_lower`).
-/

namespace CorpusQuery

open Plan (Item Ignore)

namespace Plan

theorem size_pos (p : Plan) : 1 ≤ p.size := by
  cases p <;> simp [size]

theorem sizes_eq : ∀ ps : List Plan, sizes ps = (ps.map size).sum
  | [] => rfl
  | p :: ps => by rw [sizes, sizes_eq ps, List.map_cons, List.sum_cons]

theorem itemSizes_eq : ∀ is : List Item, itemSizes is = (is.map (·.plan.size)).sum
  | [] => rfl
  | ⟨p, b⟩ :: is => by rw [itemSizes, itemSizes_eq is, List.map_cons, List.sum_cons]

theorem Item.size_toPlan (g : Option Ignore) (i : Item) :
    (i.toPlan g).size = i.plan.size + i.optional.toNat := by
  unfold Item.toPlan
  split_ifs with h
  · simp [size, itemSizes_eq, h, Nat.add_comm]
  · simp [h]

end Plan

theorem Occurrence.optional_of_merge {a b c : Occurrence} (h : a.merge b = some c) :
    c.optional = (a.optional && b.optional) := by
  unfold merge at h
  split at h <;> rename_i ha hb <;> split_ifs at h <;> cases h <;> simp [ha, hb]

namespace Sentence

/-! ## Weights -/

/-- What counts in the item of a sentence. A row is the sequence of several elements or sentences
that stands exactly once; any other occurrence makes one part of it. -/
structure Weight where
  /-- The nodes of the plan, without nested rows, and without the sequence of the item itself if it
  is a row. -/
  nodes : ℕ
  isRow : Bool
  optional : Bool
  /-- The rows that are parts of other rows. -/
  nested : ℕ

namespace Weight

/-- The size of the plan of the item, without nested rows. -/
def itemSize (m : Weight) : ℕ :=
  m.nodes + m.isRow.toNat

/-- The size of the item made a plan, without nested rows. -/
def planSize (m : Weight) : ℕ :=
  m.itemSize + m.optional.toNat

/-- Items in a row. One alone stays what it is. -/
def row : List Weight → Weight
  | [m] => m
  | ms =>
    { nodes := (ms.map nodes).sum
      isRow := true
      optional := ms.all optional
      nested := (ms.map fun m => m.nested + m.isRow.toNat).sum }

/-- Items that are alternatives to each other. One alone stays what it is. -/
def choice : List Weight → Weight
  | [m] => m
  | ms =>
    { nodes := 1 + (ms.map planSize).sum
      isRow := false
      optional := false
      nested := (ms.map nested).sum }

/-- An item that stands as often as an occurrence says. A recurrence is a node of its own. -/
def occurring (o : Occurrence) (m : Weight) : Weight :=
  if o.isOnce then m
  else
    { nodes := if 1 < o.most then 1 + m.planSize else m.itemSize
      isRow := false
      optional := o.optional || m.optional
      nested := m.nested }

/-- An element of a phrase. -/
def ofElement (e : Element) : Weight where
  nodes := e.content.toPlan.size + if 1 < e.occurrence.most then 1 else 0
  isRow := false
  optional := e.occurrence.optional
  nested := 0

end Weight

/-- What counts in a sentence, part by part. -/
def weights : Algebra Weight where
  element := Weight.ofElement
  phrase := Weight.row
  sequence := Weight.row
  alternatives := Weight.choice
  occurring := Weight.occurring

/-- The number of rows among the parts of other rows. Each is a sequence that stands in another one
in the plan. -/
def nestedRows (s : Sentence) : ℕ :=
  (s.fold weights).nested

/-! ## Simplification -/

namespace Weight

/-- The second has no more nodes, with its own row or without, and is optional if the first is. -/
structure Outweighs (m n : Weight) : Prop where
  nodes : n.nodes ≤ m.nodes
  itemSize : n.itemSize ≤ m.itemSize
  optional : n.optional = m.optional

variable {m n : Weight} {ms ns : List Weight}

theorem Outweighs.refl (m : Weight) : m.Outweighs m :=
  ⟨le_rfl, le_rfl, rfl⟩

theorem Outweighs.trans {k : Weight} (h : k.Outweighs m) (h' : m.Outweighs n) : k.Outweighs n :=
  ⟨h'.nodes.trans h.nodes, h'.itemSize.trans h.itemSize, h'.optional.trans h.optional⟩

theorem Outweighs.planSize (h : m.Outweighs n) : n.planSize ≤ m.planSize := by
  rw [Weight.planSize, Weight.planSize, h.optional]
  exact Nat.add_le_add_right h.itemSize _

theorem Outweighs.occurring (h : m.Outweighs n) (o : Occurrence) :
    (m.occurring o).Outweighs (n.occurring o) := by
  have hn : (if 1 < o.most then 1 + n.planSize else n.itemSize)
      ≤ if 1 < o.most then 1 + m.planSize else m.itemSize := by
    split_ifs
    · exact Nat.add_le_add_left h.planSize 1
    · exact h.itemSize
  unfold Weight.occurring
  by_cases ho : o.isOnce = true
  · rwa [if_pos ho, if_pos ho]
  · rw [if_neg ho, if_neg ho]
    exact ⟨hn, hn, congrArg (o.optional || ·) h.optional⟩

/-! ### Rows -/

theorem nodes_row (ms : List Weight) : (row ms).nodes = (ms.map (·.nodes)).sum := by
  unfold row
  split <;> simp

theorem optional_row (ms : List Weight) : (row ms).optional = ms.all (·.optional) := by
  unfold row
  split <;> simp

theorem row_of_several (h : ∀ m, ms ≠ [m]) :
    row ms = ⟨(ms.map (·.nodes)).sum, true, ms.all (·.optional),
      (ms.map fun m => m.nested + m.isRow.toNat).sum⟩ := by
  unfold row
  split
  · exact absurd rfl (h _)
  · rfl

/-- A row of several parts has a sequence of its own, so no row of fewer nodes outweighs it. -/
theorem row_outweighs (hm : ∀ m, ms ≠ [m]) (hn : (ns.map (·.nodes)).sum ≤ (ms.map (·.nodes)).sum)
    (ho : ns.all (·.optional) = ms.all (·.optional)) : (row ms).Outweighs (row ns) := by
  have hr : (row ms).isRow = true := by rw [row_of_several hm]
  have hb := Bool.toNat_le (row ns).isRow
  refine ⟨?_, ?_, ?_⟩
  · rwa [nodes_row, nodes_row]
  · rw [itemSize, itemSize, nodes_row, nodes_row, hr]
    exact Nat.add_le_add hn hb
  · rwa [optional_row, optional_row]

theorem ne_singleton {α : Type} {xs ys : List α} (h : ¬ (xs = [] ∧ ys = [])) (m k : α) :
    xs ++ m :: ys ≠ [k] := by
  intro he
  obtain ⟨hx, hy⟩ | ⟨-, hy⟩ := List.append_eq_singleton_iff.1 he
  · exact h ⟨hx, (List.cons_eq_cons.1 hy).2⟩
  · cases hy

theorem flat_row : Flat Outweighs row where
  congr xs m n ys h := by
    by_cases hs : xs = [] ∧ ys = []
    · obtain ⟨rfl, rfl⟩ := hs
      exact h
    · refine row_outweighs (ne_singleton hs m) ?_ ?_
      · have := h.nodes
        simp only [List.map_append, List.map_cons, List.sum_append, List.sum_cons]
        omega
      · simp [h.optional]
  single _ := rfl
  splice xs ys zs _ := by
    by_cases hs : xs = [] ∧ zs = []
    · obtain ⟨rfl, rfl⟩ := hs
      rw [List.nil_append, List.nil_append, List.append_nil]
      exact .refl (row ys)
    · refine row_outweighs (ne_singleton hs _) ?_ ?_
      · simp [nodes_row]
      · simp [optional_row]

/-! ### Choices -/

theorem choice_of_several (h : ∀ m, ms ≠ [m]) :
    choice ms = ⟨1 + (ms.map (·.planSize)).sum, false, false, (ms.map (·.nested)).sum⟩ := by
  unfold choice
  split
  · exact absurd rfl (h _)
  · rfl

theorem choice_outweighs (hm : ∀ m, ms ≠ [m]) (hn : ∀ n, ns ≠ [n])
    (h : (ns.map (·.planSize)).sum ≤ (ms.map (·.planSize)).sum) :
    (choice ms).Outweighs (choice ns) := by
  rw [choice_of_several hm, choice_of_several hn]
  exact ⟨Nat.add_le_add_left h 1, Nat.add_le_add_left h 1, rfl⟩

theorem flat_choice : Flat Outweighs choice where
  congr xs m n ys h := by
    by_cases hs : xs = [] ∧ ys = []
    · obtain ⟨rfl, rfl⟩ := hs
      exact h
    · refine choice_outweighs (ne_singleton hs m) (ne_singleton hs n) ?_
      have := h.planSize
      simp only [List.map_append, List.map_cons, List.sum_append, List.sum_cons]
      omega
  single _ := rfl
  splice xs ys zs hys := by
    by_cases hs : xs = [] ∧ zs = []
    · obtain ⟨rfl, rfl⟩ := hs
      rw [List.nil_append, List.nil_append, List.append_nil]
      exact .refl (choice ys)
    · obtain ⟨y, ys, rfl⟩ := List.exists_cons_of_ne_nil hys
      cases ys with
      | nil => exact .refl _
      | cons y' ys =>
        -- the inner alternation goes
        have hin : choice (y :: y' :: ys) = ⟨1 + ((y :: y' :: ys).map (·.planSize)).sum, false,
          false, ((y :: y' :: ys).map (·.nested)).sum⟩ := rfl
        refine choice_outweighs (ne_singleton hs _) (ne_singleton (by simp) y) ?_
        rw [hin]
        simp [planSize, itemSize]
        omega

/-! ### Elements -/

/-- The content of two neighbours that merge counts once, and one more node says how often. -/
theorem nodes_merge {a b c : Element} (h : Element.merge a b = some c) :
    (ofElement c).nodes ≤ (ofElement a).nodes + (ofElement b).nodes := by
  obtain ⟨hc, hab, -⟩ := Element.merge_eq_some h
  have hp := Plan.size_pos b.content.toPlan
  simp only [ofElement, hc, hab]
  split_ifs <;> omega

theorem optional_merge {a b c : Element} (h : Element.merge a b = some c) :
    (ofElement c).optional = ((ofElement a).optional && (ofElement b).optional) :=
  Occurrence.optional_of_merge (Element.merge_eq_some h).2.2

end Weight

open Weight

theorem weights_tolerates : weights.Tolerates Outweighs where
  refl := .refl
  trans := .trans
  occurring o _ _ h := h.occurring o
  once _ := rfl
  merge xs a b c ys hc := by
    have hn := nodes_merge hc
    refine row_outweighs (ne_singleton (by simp) _) ?_ ?_
    · simp only [weights, List.map_append, List.map_cons, List.sum_append, List.sum_cons]
      omega
    · simp [weights, optional_merge hc, Bool.and_assoc]
  fuse xs es fs ys _ _ := by
    refine row_outweighs (ne_singleton (by simp) _) ?_ ?_
    · simp [weights, nodes_row, Nat.add_assoc]
    · simp [weights, optional_row, Bool.and_assoc]
  sequence := flat_row
  alternatives := flat_choice

/-! ## Lowering -/

/-- The item has the size of the weight, with the nested rows, and its flag. -/
structure Weighs (i : Item) (m : Weight) : Prop where
  size : i.plan.size = m.itemSize + m.nested
  optional : i.optional = m.optional

variable {g : Option Ignore} {i : Item} {is : List Item} {m : Weight} {ms : List Weight}

theorem Weighs.size_toPlan (h : Weighs i m) : (i.toPlan g).size = m.planSize + m.nested := by
  rw [Item.size_toPlan, h.size, h.optional, planSize]
  omega

theorem Weighs.repeated (h : Weighs i m) (o : Occurrence) :
    Weighs (i.repeated g o) (m.occurring o) := by
  unfold Weight.occurring
  by_cases ho : o.isOnce = true
  · obtain rfl := eq_once_of_isOnce ho
    rw [if_pos ho]
    exact ⟨h.size, (Bool.false_or _).trans h.optional⟩
  · rw [if_neg ho]
    refine ⟨?_, congrArg (o.optional || ·) h.optional⟩
    unfold Item.repeated
    split_ifs
    · simp [Plan.size, h.size_toPlan, itemSize, Nat.add_assoc]
    · exact h.size

theorem weighs_element (e : Element) : Weighs (e.lower g) (ofElement e) := by
  refine ⟨?_, Bool.or_false _⟩
  unfold Element.lower Item.repeated
  split_ifs with h
  · simp [Plan.size, Item.toPlan, ofElement, itemSize, h, Nat.add_comm]
  · simp [ofElement, itemSize, h]

theorem sum_weighs (h : List.Forall₂ Weighs is ms) :
    (is.map (·.plan.size)).sum
        = (ms.map (·.nodes)).sum + (ms.map fun m => m.nested + m.isRow.toNat).sum := by
  induction h with
  | nil => rfl
  | cons hi _ ih =>
    simp only [List.map_cons, List.sum_cons, ih, hi.size, itemSize]
    omega

theorem all_weighs (h : List.Forall₂ Weighs is ms) :
    is.all (·.optional) = ms.all (·.optional) := by
  induction h with
  | nil => rfl
  | cons hi _ ih => rw [List.all_cons, List.all_cons, hi.optional, ih]

theorem sum_weighs_toPlan (h : List.Forall₂ Weighs is ms) :
    ((is.map (·.toPlan g)).map Plan.size).sum
        = (ms.map (·.planSize)).sum + (ms.map (·.nested)).sum := by
  induction h with
  | nil => rfl
  | cons hi _ ih =>
    simp only [List.map_cons, List.sum_cons, ih, hi.size_toPlan]
    omega

theorem weighs_row (h : List.Forall₂ Weighs is ms) (hs : ∀ m, ms ≠ [m]) :
    Weighs ⟨.sequence is g, is.all (·.optional)⟩ (row ms) := by
  rw [row_of_several hs]
  refine ⟨?_, all_weighs h⟩
  rw [Plan.size, Plan.itemSizes_eq, sum_weighs h, itemSize]
  simp only [Bool.toNat_true]
  omega

theorem weighs_sequenceItem (h : List.Forall₂ Weighs is ms) (hi : sequenceItem g is = .ok i) :
    Weighs i (row ms) := by
  cases h with
  | nil => cases hi
  | cons h hs =>
    cases hs with
    | nil =>
      cases hi
      exact h
    | cons h' hs =>
      cases hi
      exact weighs_row (.cons h (.cons h' hs)) (by simp)

theorem weighs_alternationItem (h : List.Forall₂ Weighs is ms)
    (hi : alternationItem g is = .ok i) : Weighs i (choice ms) := by
  cases h with
  | nil => cases hi
  | cons h hs =>
    cases hs with
    | nil =>
      cases hi
      exact h
    | cons h' hs =>
      cases hi
      have hsum := sum_weighs_toPlan (g := g) (.cons h (.cons h' hs))
      rw [choice_of_several (by simp)]
      refine ⟨?_, rfl⟩
      rw [Plan.size, Plan.sizes_eq, hsum, itemSize]
      simp only [Bool.toNat_false]
      omega

theorem weighs_phrase {p : Phrase} (hi : p.lower g = .ok i) :
    Weighs i (row (p.elements.map ofElement)) := by
  refine weighs_sequenceItem ?_ (sequenceItem_of_phrase hi)
  rw [List.forall₂_map_left_iff, List.forall₂_map_right_iff, List.forall₂_same]
  exact fun e _ => weighs_element e

mutual

theorem weighs_lower : ∀ (s : Sentence) {i : Item}, s.lower g = .ok i →
    Weighs i (s.fold weights)
  | .basic p o b => by
    intro hi
    rw [lower] at hi
    obtain ⟨j, hj, hi⟩ := bind_eq_ok hi
    cases hi
    rw [fold_basic]
    exact (weighs_phrase hj).repeated o
  | .composite alts o b => by
    intro hi
    rw [lower] at hi
    obtain ⟨is, his, hi⟩ := bind_eq_ok hi
    obtain ⟨j, hj, hi⟩ := bind_eq_ok hi
    cases hi
    rw [fold_composite]
    exact (weighs_alternationItem (weighs_lowerAlternatives alts his) hj).repeated o

theorem weighs_lowerAlternatives : ∀ (alts : List (List Sentence)) {is : List Item},
    lowerAlternatives g alts = .ok is → List.Forall₂ Weighs is (alts.map (foldRow weights))
  | [] => by
    intro his
    cases his
    exact .nil
  | ss :: alts => by
    intro his
    rw [lowerAlternatives] at his
    obtain ⟨js, hjs, his⟩ := bind_eq_ok his
    obtain ⟨j, hj, his⟩ := bind_eq_ok his
    obtain ⟨rest, hrest, his⟩ := bind_eq_ok his
    cases his
    exact .cons (weighs_sequenceItem (weighs_lowerSequence ss hjs) hj)
      (weighs_lowerAlternatives alts hrest)

theorem weighs_lowerSequence : ∀ (ss : List Sentence) {is : List Item},
    lowerSequence g ss = .ok is → List.Forall₂ Weighs is (ss.map (fold weights))
  | [] => by
    intro his
    cases his
    exact .nil
  | s :: ss => by
    intro his
    rw [lowerSequence] at his
    obtain ⟨i, hi, his⟩ := bind_eq_ok his
    obtain ⟨rest, hrest, his⟩ := bind_eq_ok his
    cases his
    exact .cons (weighs_lower s hi) (weighs_lowerSequence ss hrest)

end

theorem size_toPlan {s : Sentence} {p : Plan} (h : s.toPlan g = .ok p) :
    p.size = (s.fold weights).planSize + s.nestedRows := by
  rw [toPlan] at h
  obtain ⟨i, hi, h⟩ := bind_eq_ok h
  cases h
  exact (weighs_lower s hi).size_toPlan

/-- A sentence that has a plan has one when it is simplified, and this is no larger, not counting
rows that are sequences within sequences in either. -/
theorem size_simplify {s : Sentence} {p : Plan} (h : s.toPlan g = .ok p) :
    ∃ q, s.simplify.toPlan g = .ok q ∧
      q.size + s.nestedRows ≤ p.size + s.simplify.nestedRows := by
  obtain ⟨q, hq⟩ : ∃ q, s.simplify.toPlan g = .ok q := by
    have hs := toPlan_language g s.simplify
    rw [vacancy_simplify, vacancy_eq_none.2 (filled_of_toPlan h).1] at hs
    obtain ⟨-, q, hq, -⟩ | ⟨w, hw, -⟩ := ok_or_error hs
    · exact ⟨q, hq⟩
    · cases hw
  refine ⟨q, hq, ?_⟩
  have hw := (fold_simplify weights_tolerates s).planSize
  rw [size_toPlan h, size_toPlan hq]
  omega

/-- A name of some kind. -/
def aName (layer : String) : Element :=
  ⟨.group (.named "text" layer .full), .once⟩

/-- A given name and a middle name, then a surname or a title. -/
def threeNames : Sentence :=
  .ofAlternatives [[.ofPhrase ⟨[aName "given"], false⟩, .ofPhrase ⟨[aName "middle"], false⟩,
    .ofAlternatives [[.ofPhrase ⟨[aName "surname"], false⟩],
      [.ofPhrase ⟨[aName "title"], false⟩]]]]

/-- The first two names are one phrase now, and a sequence in the sequence. -/
theorem simplify_threeNames : threeNames.simplify =
    .composite [[.basic ⟨[aName "given", aName "middle"], true⟩ .once true,
      .composite [[.basic ⟨[aName "surname"], true⟩ .once true],
        [.basic ⟨[aName "title"], true⟩ .once true]] .once true]] .once true := by
  cbv

theorem size_simplify_threeNames : ∃ p q, threeNames.toPlan none = .ok p ∧
    threeNames.simplify.toPlan none = .ok q ∧ threeNames.nestedRows = 0 ∧
      threeNames.simplify.nestedRows = 1 ∧ q.size ≤ p.size + 1 := by
  obtain ⟨q, hq, hs⟩ := size_simplify (g := none) (s := threeNames) rfl
  have h0 : threeNames.nestedRows = 0 := rfl
  have h1 : threeNames.simplify.nestedRows = 1 := by
    rw [simplify_threeNames]
    rfl
  rw [h0, h1] at hs
  exact ⟨_, q, rfl, hq, h0, h1, hs⟩

theorem size_lt_size_simplify_threeNames : ∃ p q, threeNames.toPlan none = .ok p ∧
    threeNames.simplify.toPlan none = .ok q ∧ p.size = 6 ∧ q.size = 7 := by
  rw [simplify_threeNames]
  exact ⟨_, _, rfl, rfl, rfl, rfl⟩

end Sentence

end CorpusQuery
