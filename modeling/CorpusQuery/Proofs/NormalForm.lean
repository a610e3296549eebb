import CorpusQuery.Proofs.Merging

/-!
# The normal form of a sentence

A sentence is normal (`Sentence.Normal`) if it is simplified throughout and no rule of
simplification has anything left to do in it. Each part of the simplifier brings about its share of
that for whatever normal sentences it is given (`normalRow_compact`, `normal_collapse_flatten`), so
the flags of a sentence need not be trusted further than this: a part that is flagged is normal
(`Sentence.Tidy`). Simplification then makes the sentence normal (`Sentence.normal_simplify`), and a
normal sentence whose flags are all taken away is what simplification gives back
(`Sentence.simplify_cleared`).
-/

namespace CorpusQuery.Sentence

open Neighbours

/-- Whether the sentence dissolves in a sequence: it stands once and has one alternative, which is
not empty. -/
def isSpliceable : Sentence → Bool
  | .composite [_ :: _] o _ => o.isOnce
  | _ => false

/-- Whether the sentence, alone in an alternative, dissolves among the others: it stands once and
has alternatives of its own. -/
def isAlternation : Sentence → Bool
  | .composite (_ :: _) o _ => o.isOnce
  | _ => false

/-- Simplified throughout, with nothing left to simplify. -/
inductive Normal : Sentence → Prop
  /-- No two neighbouring elements merge. -/
  | basic {p o} (closed : p.simplified = true)
      (settled : p.elements.IsChain fun a b => Element.merge a b = none) :
      Normal (.basic p o true)
  /-- No two neighbours are phrases that become one, no member dissolves in its sequence, none
  dissolves among several alternatives, and the composite does not just stand for one sentence. -/
  | composite {alts o} (members : ∀ ss ∈ alts, ∀ s ∈ ss, Normal s)
      (apart : ∀ ss ∈ alts, ss.IsChain fun s t => ¬ (s.isFusable = true ∧ t.isFusable = true))
      (unspliced : ∀ ss ∈ alts, ∀ s ∈ ss, s.isSpliceable = false)
      (flat : 1 < alts.length → ∀ s, [s] ∈ alts → s.isAlternation = false)
      (needed : ∀ s, alts = [[s]] → o ≠ .once ∧ s.occurrence ≠ .once) :
      Normal (.composite alts o true)

theorem map_eq_self {α : Type*} {f : α → α} {as : List α} (h : ∀ a ∈ as, f a = a) :
    as.map f = as :=
  (List.map_congr_left h).trans (List.map_id as)

theorem Normal.simplified {s : Sentence} : s.Normal → s.simplified = true
  | .basic .. | .composite .. => rfl

theorem Normal.simplify {s : Sentence} (h : s.Normal) : s.simplify = s := by
  cases h with
  | basic => rw [Sentence.simplify, if_pos rfl]
  | composite => rw [Sentence.simplify, if_pos rfl]

/-! ## Sequences -/

theorem exists_of_isSpliceable {s : Sentence} (h : s.isSpliceable = true) :
    ∃ t ts b, s = .composite [t :: ts] .once b := by
  unfold isSpliceable at h
  split at h
  · rename_i t ts o b
    exact ⟨t, ts, b, by rw [eq_once_of_isOnce h]⟩
  · cases h

theorem spliced_eq_self {s : Sentence} (h : s.isSpliceable = false) : s.spliced = [s] := by
  unfold spliced
  split
  · rename_i t ts o b
    exact if_neg (by simpa [isSpliceable] using h)
  · rfl

theorem splicedAll_eq_self : ∀ {ss : List Sentence}, (∀ s ∈ ss, s.isSpliceable = false) →
    splicedAll ss = ss
  | [], _ => rfl
  | s :: ss, h => by
    obtain ⟨hs, hss⟩ := List.forall_mem_cons.1 h
    rw [splicedAll, spliced_eq_self hs, splicedAll_eq_self hss, List.singleton_append]

theorem fuse_eq_none {s t : Sentence} :
    fuse s t = none ↔ ¬ (s.isFusable = true ∧ t.isFusable = true) := by
  unfold fuse
  split
  · simp
  · rename_i h
    simp only [true_iff]
    rintro ⟨hs, ht⟩
    obtain ⟨p, b, rfl, -⟩ := isFusable_iff.1 hs
    obtain ⟨q, c, rfl, -⟩ := isFusable_iff.1 ht
    exact h p .once b q .once c rfl rfl

theorem fuse_steady : Steady fuse := by
  intro s t u v hst htu
  obtain ⟨p, q, b, c, rfl, rfl, hp, hq, rfl⟩ := fuse_eq_some htu
  rw [fuse_eq_none] at hst ⊢
  rintro ⟨hs, -⟩
  exact hst ⟨hs, isFusable_iff.2 ⟨p, b, rfl, hp⟩⟩

/-- An alternative of a normal composite. -/
structure NormalRow (ss : List Sentence) : Prop where
  members : ∀ s ∈ ss, s.Normal
  apart : Settled fuse ss
  unspliced : ∀ s ∈ ss, s.isSpliceable = false

theorem normal_composite {alts : List (List Sentence)} {o : Occurrence} {b : Bool} :
    (composite alts o b).Normal ↔ b = true ∧ (∀ ss ∈ alts, NormalRow ss) ∧
      (1 < alts.length → ∀ s, [s] ∈ alts → s.isAlternation = false) ∧
      ∀ s, alts = [[s]] → o ≠ .once ∧ s.occurrence ≠ .once := by
  have hap : ∀ ss : List Sentence, Settled fuse ss ↔
      ss.IsChain fun s t => ¬ (s.isFusable = true ∧ t.isFusable = true) := fun ss => by
    simp only [Settled, fuse_eq_none]
  constructor
  · rintro (_ | ⟨members, apart, unspliced, flat, needed⟩)
    exact ⟨rfl, fun ss hss => ⟨members ss hss, (hap ss).2 (apart ss hss), unspliced ss hss⟩, flat,
      needed⟩
  · rintro ⟨rfl, rows, flat, needed⟩
    exact .composite (fun ss hss => (rows ss hss).members)
      (fun ss hss => (hap ss).1 (rows ss hss).apart) (fun ss hss => (rows ss hss).unspliced) flat
      needed

theorem spliced_composite {t : Sentence} {ts : List Sentence} {b : Bool}
    (h : (composite [t :: ts] .once b).Normal) :
    (composite [t :: ts] .once b).spliced = t :: ts ∧ NormalRow (t :: ts) := by
  obtain ⟨-, rows, -⟩ := normal_composite.1 h
  have hrow : NormalRow (t :: ts) := rows _ (List.mem_singleton_self _)
  exact ⟨splicedAll_eq_self hrow.unspliced, hrow⟩

theorem normal_of_mem_spliced {s : Sentence} (h : s.Normal) :
    ∀ t ∈ s.spliced, t.Normal ∧ t.isSpliceable = false := by
  cases hs : s.isSpliceable with
  | false =>
    rw [spliced_eq_self hs]
    rintro t ht
    obtain rfl := List.mem_singleton.1 ht
    exact ⟨h, hs⟩
  | true =>
    obtain ⟨t, ts, b, rfl⟩ := exists_of_isSpliceable hs
    obtain ⟨he, hrow⟩ := spliced_composite h
    rw [he]
    exact fun u hu => ⟨hrow.members u hu, hrow.unspliced u hu⟩

theorem normal_fuse {s t u : Sentence} (hu : fuse s t = some u) (hs : s.Normal) :
    u.Normal ∧ u.isSpliceable = false := by
  obtain ⟨p, q, b, c, rfl, rfl, -, -, rfl⟩ := fuse_eq_some hu
  rcases hs with ⟨hp, hset⟩ | _
  exact ⟨.basic hp (Phrase.settled_fuse q hp hset), rfl⟩

theorem normalRow_compact {ss : List Sentence} (h : ∀ s ∈ ss, s.Normal) :
    NormalRow (compact ss) := by
  have hspl : ∀ t ∈ splicedAll ss, t.Normal ∧ t.isSpliceable = false := by
    intro t ht
    rw [splicedAll_eq] at ht
    obtain ⟨s, hs, hts⟩ := List.mem_flatMap.1 ht
    exact normal_of_mem_spliced (h s hs) t hts
  have hmem : ∀ t ∈ compact ss, t.Normal ∧ t.isSpliceable = false := by
    refine merge_keeps
      (P := fun l : List Sentence => ∀ t ∈ l, t.Normal ∧ t.isSpliceable = false) ?_ hspl
    intro xs s t u ys hu hl
    simp only [List.forall_mem_append, List.forall_mem_cons] at hl ⊢
    obtain ⟨hxs, hs, -, hys⟩ := hl
    exact ⟨hxs, normal_fuse hu hs.1, hys⟩
  exact ⟨fun t ht => (hmem t ht).1, settled_merge fuse_steady _, fun t ht => (hmem t ht).2⟩

theorem NormalRow.compact {ss : List Sentence} (h : NormalRow ss) : Sentence.compact ss = ss := by
  rw [Sentence.compact, splicedAll_eq_self h.unspliced, merge_of_settled h.apart]

/-! ## Alternatives -/

theorem exists_of_isAlternation {s : Sentence} (h : s.isAlternation = true) :
    ∃ alt alts b, s = .composite (alt :: alts) .once b := by
  unfold isAlternation at h
  split at h
  · rename_i alt alts o b
    exact ⟨alt, alts, b, by rw [eq_once_of_isOnce h]⟩
  · cases h

theorem isAlternation_of_isSpliceable {s : Sentence} (h : s.isSpliceable = true) :
    s.isAlternation = true := by
  obtain ⟨t, ts, b, rfl⟩ := exists_of_isSpliceable h
  rfl

/-- An alternative that is one of several: it is not a lone sentence that dissolves. -/
structure FlatRow (ss : List Sentence) : Prop extends NormalRow ss where
  flat : ∀ s, ss = [s] → s.isAlternation = false

theorem flattened_eq_self {ss : List Sentence} (h : ∀ s, ss = [s] → s.isAlternation = false) :
    flattened ss = [ss] := by
  unfold flattened
  split
  · rename_i alt alts o b
    exact if_neg (by simpa [isAlternation] using h _ rfl)
  · rfl

theorem flattened_alternation (alt : List Sentence) (alts : List (List Sentence)) (b : Bool) :
    flattened [.composite (alt :: alts) .once b] = alt :: alts :=
  rfl

theorem flatRow_flattened_single {s : Sentence} (h : s.Normal) :
    ∀ ts ∈ flattened [s], FlatRow ts := by
  cases hs : s.isAlternation with
  | false =>
    have hrow : FlatRow [s] :=
      { members := by simpa using h
        apart := List.isChain_singleton s
        unspliced := by
          intro t ht
          obtain rfl := List.mem_singleton.1 ht
          rw [← Bool.not_eq_true]
          exact fun ht => by simp [isAlternation_of_isSpliceable ht] at hs
        flat := by
          rintro t ht
          obtain rfl := List.singleton_inj.1 ht
          exact hs }
    rw [flattened_eq_self hrow.flat]
    simpa using hrow
  | true =>
    obtain ⟨alt, alts, b, rfl⟩ := exists_of_isAlternation hs
    obtain ⟨-, rows, flat, needed⟩ := normal_composite.1 h
    rw [flattened_alternation]
    intro ts hts
    refine ⟨rows ts hts, ?_⟩
    rintro t rfl
    cases alts with
    | nil =>
      -- a single alternative with one sentence would be that sentence
      obtain rfl := List.mem_singleton.1 hts
      exact absurd rfl (needed t rfl).1
    | cons alt' alts => exact flat (by simp) t hts

theorem flatRow_flattened {ss : List Sentence} (h : NormalRow ss) :
    ∀ ts ∈ flattened ss, FlatRow ts := by
  by_cases hs : ∃ s, ss = [s]
  · obtain ⟨s, rfl⟩ := hs
    exact flatRow_flattened_single (h.members s (List.mem_singleton_self s))
  · have hne : ∀ s, ss = [s] → s.isAlternation = false := fun s hss => absurd ⟨s, hss⟩ hs
    rw [flattened_eq_self hne]
    simpa using ⟨h, hne⟩

theorem flattened_ne_nil (ss : List Sentence) : flattened ss ≠ [] := by
  unfold flattened
  split
  · split_ifs <;> simp
  · simp

theorem flatten_of_flat {alts : List (List Sentence)}
    (h : 1 < alts.length → ∀ s, [s] ∈ alts → s.isAlternation = false) : flatten alts = alts := by
  unfold flatten
  split_ifs with hl
  · have hf : ∀ ss ∈ alts, flattened ss = [ss] := by
      intro ss hss
      refine flattened_eq_self ?_
      rintro s rfl
      exact h hl s hss
    rw [List.flatMap_congr hf]
    simp
  · rfl

/-! ## Composites -/

/-- A normal sentence that stands once may be given any occurrence. -/
theorem normal_occurring {s : Sentence} (h : s.Normal) (hs : s.occurrence = .once)
    (o : Occurrence) : (s.occurring o).Normal := by
  cases h with
  | basic hp hset => exact .basic hp hset
  | @composite alts o' members apart unspliced flat needed =>
    refine .composite members apart unspliced flat ?_
    intro t ht
    exact absurd hs (needed t ht).1

theorem collapse_of_needed {alts : List (List Sentence)} {o : Occurrence}
    (h : ∀ s, alts = [[s]] → o ≠ .once ∧ s.occurrence ≠ .once) :
    collapse alts o = .composite alts o true := by
  unfold collapse
  split
  · rename_i s
    obtain ⟨ho, hs⟩ := h s rfl
    rw [if_neg (by simpa [Occurrence.isOnce] using ho),
      if_neg (by simpa [Occurrence.isOnce] using hs)]
  · rfl

theorem occurring_occurrence (s : Sentence) : s.occurring s.occurrence = s := by
  cases s <;> rfl

theorem collapse_of_once {s : Sentence} (hs : s.occurrence = .once) (o : Occurrence) :
    collapse [[s]] o = s.occurring o := by
  have h1 : s.occurrence.isOnce = true := by
    rw [hs]
    rfl
  rw [collapse]
  split_ifs with ho
  · rw [eq_once_of_isOnce ho, ← hs, occurring_occurrence]
  · rfl

theorem normal_collapse_single {s : Sentence} (h : s.Normal) (o : Occurrence) :
    (collapse [[s]] o).Normal := by
  rw [collapse]
  split_ifs with ho hso
  · exact h
  · exact normal_occurring h (eq_once_of_isOnce hso) o
  · simp only [Occurrence.isOnce, decide_eq_true_eq] at ho hso
    refine .composite (by simpa using h) (by simp) ?_ (by simp) ?_
    · intro ss hss t ht
      obtain rfl := List.mem_singleton.1 hss
      obtain rfl := List.mem_singleton.1 ht
      rw [← Bool.not_eq_true]
      intro hs
      obtain ⟨u, us, b, rfl⟩ := exists_of_isSpliceable hs
      exact hso rfl
    · intro t ht
      obtain rfl : s = t := by simpa using ht
      exact ⟨ho, hso⟩

theorem normal_collapse {alts : List (List Sentence)} (rows : ∀ ss ∈ alts, NormalRow ss)
    (flat : 1 < alts.length → ∀ s, [s] ∈ alts → s.isAlternation = false) (o : Occurrence) :
    (collapse alts o).Normal := by
  by_cases hs : ∃ s, alts = [[s]]
  · obtain ⟨s, rfl⟩ := hs
    have hrow := rows [s] (List.mem_singleton_self _)
    exact normal_collapse_single (hrow.members s (List.mem_singleton_self s)) o
  · have hne : ∀ s, alts = [[s]] → o ≠ .once ∧ s.occurrence ≠ .once := fun s h => absurd ⟨s, h⟩ hs
    rw [collapse_of_needed hne]
    exact normal_composite.2 ⟨rfl, rows, flat, hne⟩

/-- Several alternatives are normal after flattening if what each brings in is. -/
theorem normal_of_flatRows {alts : List (List Sentence)} (hl : 1 < alts.length)
    (rows : ∀ ss ∈ alts, ∀ ts ∈ flattened ss, FlatRow ts) (o : Occurrence) :
    (collapse (flatten alts) o).Normal := by
  have hf : ∀ ts ∈ flatten alts, FlatRow ts := by
    intro ts hts
    rw [flatten, if_pos hl] at hts
    obtain ⟨ss, hss, hts⟩ := List.mem_flatMap.1 hts
    exact rows ss hss ts hts
  exact normal_collapse (fun ts hts => (hf ts hts).toNormalRow)
    (fun _ s hs => (hf [s] hs).flat s rfl) o

theorem normal_collapse_flatten {alts : List (List Sentence)} (rows : ∀ ss ∈ alts, NormalRow ss)
    (o : Occurrence) : (collapse (flatten alts) o).Normal := by
  by_cases hl : 1 < alts.length
  · exact normal_of_flatRows hl (fun ss hss => flatRow_flattened (rows ss hss)) o
  · rw [flatten, if_neg hl]
    exact normal_collapse rows (fun h => absurd h hl) o

/-! ## Simplification -/

/-- Wherever a flag is set it can be trusted. -/
inductive Tidy : Sentence → Prop
  | basic {p o b} (phrase : p.simplified = true → p.Settled)
      (closed : b = true → p.simplified = true) : Tidy (.basic p o b)
  | composite {alts o b} (members : ∀ ss ∈ alts, ∀ s ∈ ss, Tidy s)
      (closed : b = true → (composite alts o b).Normal) : Tidy (.composite alts o b)

theorem Tidy.normal {s : Sentence} (h : s.Tidy) (hs : s.simplified = true) : s.Normal := by
  cases h with
  | basic phrase closed =>
    obtain rfl := hs
    exact .basic (closed rfl) (phrase (closed rfl))
  | composite _ closed => exact closed hs

theorem Normal.tidy : ∀ {s : Sentence}, s.Normal → s.Tidy := by
  refine @induction _ (fun p o b h => ?_) fun alts o b ih h => ?_
  · rcases h with ⟨hp, hset⟩ | _
    exact .basic (fun _ => hset) fun _ => hp
  · obtain ⟨-, rows, -⟩ := normal_composite.1 h
    exact .composite (fun ss hss s hs => ih ss hss s hs ((rows ss hss).members s hs)) fun _ => h

theorem Tidy.normal_simplify {s : Sentence} (h : s.Tidy) (hs : s.simplified = true) :
    s.simplify.Normal := by
  rw [(h.normal hs).simplify]
  exact h.normal hs

theorem normal_simplify : ∀ {s : Sentence}, s.Tidy → s.simplify.Normal := by
  refine @induction _ (fun p o b h => ?_) fun alts o b ih h => ?_
  · cases b with
    | true => exact h.normal_simplify rfl
    | false =>
      rcases h with ⟨phrase, -⟩ | _
      rw [simplify, if_neg Bool.false_ne_true]
      refine .basic ?_ (Phrase.settled_simplify phrase)
      unfold Phrase.simplify
      split_ifs with hp
      · exact hp
      · rfl
  · cases b with
    | true => exact h.normal_simplify rfl
    | false =>
      rcases h with _ | ⟨members, -⟩
      rw [simplify, if_neg Bool.false_ne_true, simplifyAlternatives_eq]
      refine normal_collapse_flatten ?_ o
      intro ss hss
      obtain ⟨ss, hss', rfl⟩ := List.mem_map.1 hss
      refine normalRow_compact ?_
      intro s hs
      obtain ⟨s, hs', rfl⟩ := List.mem_map.1 hs
      exact ih ss hss' s hs' (members ss hss' s hs')

mutual

/-- The sentence with every flag taken away, those of its phrases too. -/
def cleared : Sentence → Sentence
  | .basic p o _ => .basic ⟨p.elements, false⟩ o false
  | .composite alts o _ => .composite (clearedAlternatives alts) o false

def clearedAlternatives : List (List Sentence) → List (List Sentence)
  | [] => []
  | ss :: alts => clearedSequence ss :: clearedAlternatives alts

def clearedSequence : List Sentence → List Sentence
  | [] => []
  | s :: ss => s.cleared :: clearedSequence ss

end

theorem clearedSequence_eq (ss : List Sentence) : clearedSequence ss = ss.map cleared := by
  induction ss with
  | nil => rfl
  | cons s ss ih => rw [clearedSequence, ih, List.map_cons]

theorem clearedAlternatives_eq (alts : List (List Sentence)) :
    clearedAlternatives alts = alts.map (List.map cleared) := by
  induction alts with
  | nil => rfl
  | cons ss alts ih => rw [clearedAlternatives, ih, clearedSequence_eq, List.map_cons]

/-- A normal composite is what simplification makes of its alternatives. -/
theorem collapse_flatten_of_normal {alts : List (List Sentence)} {o : Occurrence} {b : Bool}
    (h : (composite alts o b).Normal) :
    collapse (flatten (alts.map compact)) o = .composite alts o b := by
  obtain ⟨rfl, rows, flat, needed⟩ := normal_composite.1 h
  have hc : alts.map compact = alts := map_eq_self fun ss hss => (rows ss hss).compact
  rw [hc, flatten_of_flat flat, collapse_of_needed needed]

theorem simplify_cleared : ∀ {s : Sentence}, s.Normal → s.cleared.simplify = s := by
  refine @induction _ (fun p o b h => ?_) fun alts o b ih h => ?_
  · rcases h with ⟨hp, hset⟩ | _
    obtain ⟨es, c⟩ := p
    obtain rfl : c = true := hp
    have hc : Phrase.coalesce es = es := merge_of_settled hset
    simp [cleared, simplify, Phrase.simplify, hc]
  · obtain ⟨-, rows, -⟩ := normal_composite.1 h
    have hss : ∀ ss ∈ alts, (ss.map cleared).map simplify = ss := by
      intro ss hss
      rw [List.map_map]
      exact map_eq_self fun s hs => ih ss hss s hs ((rows ss hss).members s hs)
    rw [cleared, clearedAlternatives_eq, simplify, if_neg Bool.false_ne_true,
      simplifyAlternatives_eq, List.map_map, ← collapse_flatten_of_normal h]
    exact congrArg (fun l => collapse (flatten l) o)
      (List.map_congr_left fun ss hs => congrArg compact (hss ss hs))

end CorpusQuery.Sentence
