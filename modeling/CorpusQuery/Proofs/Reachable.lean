import CorpusQuery.Proofs.Assembly
import CorpusQuery.Proofs.NormalForm

/-!
# What the builders can make

Phrases and sentences are made by the builders, by simplification and by assembling chains, and
their parts can be taken out again (`Phrase.Reachable`, `Sentence.Reachable`). Some of these steps
put simplified parts into a new sentence, open a simplified one to edits again or give it an
occurrence while its flag stays set. None of them sets a flag on what is not normal
(`Sentence.Reachable.tidy`), so a sentence that is flagged is normal, and nothing but its flags
tells that it was simplified before (`Sentence.normal_of_simplified`).
-/

namespace CorpusQuery

mutual

/-- The phrases that can be made. -/
inductive Phrase.Reachable : Phrase → Prop
  | new : Phrase.Reachable {}
  | add {p q : Phrase} {e : Element} :
      Phrase.Reachable p → p.add e = .ok q → Phrase.Reachable q
  | addWord {p q : Phrase} {w : Predicate} {o : Occurrence} :
      Phrase.Reachable p → p.addWord w o = .ok q → Phrase.Reachable q
  | addGroup {p q : Phrase} {g : Group} {o : Occurrence} :
      Phrase.Reachable p → p.addGroup g o = .ok q → Phrase.Reachable q
  | merge {p q r : Phrase} :
      Phrase.Reachable p → Phrase.Reachable q → p.merge q = .ok r → Phrase.Reachable r
  | simplify {p : Phrase} : Phrase.Reachable p → Phrase.Reachable p.simplify
  | ofSentence {p : Phrase} {o : Occurrence} {b : Bool} :
      Sentence.Reachable (.basic p o b) → Phrase.Reachable p

/-- The sentences that can be made. -/
inductive Sentence.Reachable : Sentence → Prop
  | ofPhrase {p : Phrase} : Phrase.Reachable p → Sentence.Reachable (.ofPhrase p)
  | ofAlternatives {alts : List (List Sentence)} :
      (∀ ss ∈ alts, ∀ s ∈ ss, Sentence.Reachable s) → Sentence.Reachable (.ofAlternatives alts)
  | setOccurrence {s t : Sentence} {lo hi : UInt64} :
      Sentence.Reachable s → s.setOccurrence lo hi = .ok t → Sentence.Reachable t
  | setOptional {s t : Sentence} {b : Bool} :
      Sentence.Reachable s → s.setOptional b = .ok t → Sentence.Reachable t
  | withOccurrence {s t : Sentence} {o : Occurrence} :
      Sentence.Reachable s → s.withOccurrence o = .ok t → Sentence.Reachable t
  | append {s t u : Sentence} :
      Sentence.Reachable s → Sentence.Reachable t → s.append t = .ok u → Sentence.Reachable u
  | addFirstOption {s t u : Sentence} :
      Sentence.Reachable s → Sentence.Reachable t → s.addFirstOption t = .ok u →
      Sentence.Reachable u
  | simplify {s : Sentence} : Sentence.Reachable s → Sentence.Reachable s.simplify
  | assemble {c : Chain} {s : Sentence} :
      (∀ t ∈ c.sentences, Sentence.Reachable t) → c.assemble = .ok s → Sentence.Reachable s
  | member {alts : List (List Sentence)} {o : Occurrence} {b : Bool} {ss : List Sentence}
      {s : Sentence} :
      Sentence.Reachable (.composite alts o b) → ss ∈ alts → s ∈ ss → Sentence.Reachable s

end

namespace Phrase

/-- A phrase that is flagged is settled. -/
def Tidy (p : Phrase) : Prop :=
  p.simplified = true → p.Settled

theorem tidy_extend {p q : Phrase} {edit : Edit} {es : List Element}
    (h : p.extend edit es = .ok q) : q.Tidy := by
  unfold extend at h
  split_ifs at h with hp
  cases h
  exact fun hs => absurd hs hp

theorem tidy_simplify {p : Phrase} (h : p.Tidy) : p.simplify.Tidy :=
  fun _ => settled_simplify h

theorem tidy_fuse {p : Phrase} (h : p.Tidy) (q : Phrase) : (p.fuse q).Tidy :=
  fun hs => settled_fuse q hs (h hs)

end Phrase

namespace Sentence

/-! ## Steps -/

theorem edit_eq_ok {s t u : Sentence} {e : Edit} (h : s.edit e t = .ok u) :
    s.simplified = false ∧ u = t := by
  unfold edit at h
  split_ifs at h with hs
  cases h
  exact ⟨by simpa using hs, rfl⟩

theorem tidy_ofAlternatives {alts : List (List Sentence)}
    (h : ∀ ss ∈ alts, ∀ s ∈ ss, s.Tidy) : (ofAlternatives alts).Tidy :=
  .composite h fun hb => absurd hb Bool.false_ne_true

theorem tidy_grouped {s : Sentence} (h : s.Tidy) : s.grouped.Tidy :=
  tidy_ofAlternatives (by simpa using h)

theorem tidy_pair {s t : Sentence} (hs : s.Tidy) (ht : t.Tidy) :
    (ofAlternatives [[s, t]]).Tidy :=
  tidy_ofAlternatives (by simp [hs, ht])

/-- Another occurrence leaves the flags alone. A sentence that is flagged must stand once before. -/
theorem tidy_occurring {s : Sentence} (h : s.Tidy)
    (hs : s.simplified = true → s.occurrence = .once) (o : Occurrence) : (s.occurring o).Tidy := by
  cases h with
  | basic phrase closed => exact .basic phrase closed
  | composite members closed =>
    exact .composite members fun hb => normal_occurring (closed hb) (hs hb) o

theorem tidy_reopened {s : Sentence} (h : s.Tidy) : s.reopened.Tidy := by
  cases h with
  | basic phrase closed => exact .basic phrase fun hb => absurd hb Bool.false_ne_true
  | composite members closed => exact .composite members fun hb => absurd hb Bool.false_ne_true

theorem tidy_quantify {s : Sentence} (h : s.Tidy) (o : Occurrence) : (s.quantify o).Tidy := by
  unfold quantify
  split_ifs with ho hs
  · exact h
  · exact tidy_occurring h (fun _ => eq_once_of_isOnce hs) o
  · exact tidy_occurring (tidy_grouped h) (fun hb => absurd hb Bool.false_ne_true) o

theorem mem_appendToLast {t u : Sentence} : ∀ {alts : List (List Sentence)} {ss : List Sentence},
    ss ∈ appendToLast alts t → u ∈ ss → u = t ∨ ∃ ss ∈ alts, u ∈ ss
  | [], ss, hss, hu => by
    obtain rfl := List.mem_singleton.1 hss
    exact .inl (List.mem_singleton.1 hu)
  | [es], ss, hss, hu => by
    obtain rfl := List.mem_singleton.1 hss
    rcases List.mem_append.1 hu with hu | hu
    · exact .inr ⟨es, List.mem_singleton_self es, hu⟩
    · exact .inl (List.mem_singleton.1 hu)
  | es :: es' :: rest, ss, hss, hu => by
    rcases List.mem_cons.1 hss with rfl | hss
    · exact .inr ⟨ss, List.mem_cons_self, hu⟩
    · obtain h | ⟨ts, hts, hu⟩ := mem_appendToLast hss hu
      · exact .inl h
      · exact .inr ⟨ts, List.mem_cons_of_mem es hts, hu⟩

theorem tidy_followedBy {s t : Sentence} (hs : s.Tidy) (hf : s.simplified = false) (ht : t.Tidy) :
    (s.followedBy t).Tidy := by
  unfold followedBy
  split
  · rename_i p o b q o' b'
    split_ifs
    · rcases hs with ⟨phrase, closed⟩ | _
      exact .basic (Phrase.tidy_fuse phrase q) closed
    · exact tidy_pair hs ht
  · rename_i alts o b
    split_ifs
    · rcases hs with _ | ⟨members, closed⟩
      refine .composite ?_ fun hb => absurd hb (Bool.eq_false_iff.1 hf)
      intro ss hss u hu
      obtain rfl | ⟨ts, hts, hu⟩ := mem_appendToLast hss hu
      · exact ht
      · exact members ts hts u hu
    · exact tidy_pair hs ht
  · exact tidy_pair hs ht

theorem tidy_preferring {s t : Sentence} (hs : s.Tidy) (hf : s.simplified = false) (ht : t.Tidy) :
    (s.preferring t).Tidy := by
  have hpair : (ofAlternatives [[t], [s]]).Tidy := tidy_ofAlternatives (by simp [hs, ht])
  unfold preferring
  split
  · rename_i alts o b
    split_ifs
    · rcases hs with _ | ⟨members, closed⟩
      refine .composite ?_ fun hb => absurd hb (Bool.eq_false_iff.1 hf)
      rw [List.forall_mem_cons]
      exact ⟨by simpa using ht, members⟩
    · exact hpair
  · exact hpair

theorem tidy_append {s t u : Sentence} (hs : s.Tidy) (ht : t.Tidy) (h : s.append t = .ok u) :
    u.Tidy := by
  obtain ⟨hf, rfl⟩ := edit_eq_ok h
  split_ifs
  · exact tidy_reopened ht
  · exact tidy_followedBy hs hf ht

theorem tidy_addFirstOption {s t u : Sentence} (hs : s.Tidy) (ht : t.Tidy)
    (h : s.addFirstOption t = .ok u) : u.Tidy := by
  obtain ⟨hf, rfl⟩ := edit_eq_ok h
  split_ifs
  · exact tidy_reopened ht
  · exact tidy_preferring hs hf ht

theorem tidy_edit_occurring {s t : Sentence} {e : Edit} {o : Occurrence} (hs : s.Tidy)
    (h : s.edit e (s.occurring o) = .ok t) : t.Tidy := by
  obtain ⟨hf, rfl⟩ := edit_eq_ok h
  exact tidy_occurring hs (fun hb => absurd hb (Bool.eq_false_iff.1 hf)) o

theorem tidy_setOccurrence {s t : Sentence} {lo hi : UInt64} (hs : s.Tidy)
    (h : s.setOccurrence lo hi = .ok t) : t.Tidy := by
  obtain ⟨u, hu, hk⟩ := bind_eq_ok h
  obtain ⟨hf, rfl⟩ := edit_eq_ok hu
  obtain ⟨o, -, ho⟩ := bind_eq_ok hk
  obtain rfl := Except.ok.inj ho
  exact tidy_occurring hs (fun hb => absurd hb (Bool.eq_false_iff.1 hf)) o

theorem tidy_assemble : ∀ {c : Chain} {s : Sentence}, (∀ t ∈ c.sentences, t.Tidy) →
    c.assemble = .ok s → s.Tidy
  | ⟨first, pending, none⟩, s, hc, h => by
    obtain rfl := Except.ok.inj h
    exact tidy_quantify (hc first (List.mem_singleton_self first)) pending
  | ⟨first, pending, some (.sequence, c)⟩, s, hc, h => by
    have hq := tidy_quantify (hc first List.mem_cons_self) pending
    rw [Chain.assemble] at h
    obtain ⟨t, ht, h⟩ := bind_eq_ok h
    have htt := tidy_assemble (fun u hu => hc u (List.mem_cons_of_mem _ hu)) ht
    refine tidy_append ?_ htt h
    split_ifs
    · exact hq
    · exact tidy_grouped hq
  | ⟨first, pending, some (.alternation, c)⟩, s, hc, h => by
    have hq := tidy_quantify (hc first List.mem_cons_self) pending
    rw [Chain.assemble] at h
    obtain ⟨t, ht, h⟩ := bind_eq_ok h
    have htt := tidy_assemble (fun u hu => hc u (List.mem_cons_of_mem _ hu)) ht
    exact tidy_addFirstOption htt hq h

theorem tidy_open {alts : List (List Sentence)} {o : Occurrence} :
    (composite alts o false).Tidy ↔ ∀ ss ∈ alts, ∀ s ∈ ss, s.Tidy := by
  constructor
  · rintro (_ | ⟨members, -⟩)
    exact members
  · exact fun h => .composite h fun hb => absurd hb Bool.false_ne_true

theorem Tidy.phrase {p : Phrase} {o : Occurrence} {b : Bool} (h : (Sentence.basic p o b).Tidy) :
    p.Tidy := by
  rcases h with ⟨phrase, -⟩ | _
  exact phrase

theorem Tidy.member {alts : List (List Sentence)} {o : Occurrence} {b : Bool}
    (h : (Sentence.composite alts o b).Tidy) : ∀ ss ∈ alts, ∀ s ∈ ss, s.Tidy := by
  rcases h with _ | ⟨members, -⟩
  exact members

end Sentence

/-! ## Runs -/

mutual

theorem Phrase.Reachable.tidy : ∀ {p : Phrase}, p.Reachable → p.Tidy
  | _, .new => fun h => absurd h Bool.false_ne_true
  | _, .add _ h | _, .addWord _ h | _, .addGroup _ h | _, .merge _ _ h => Phrase.tidy_extend h
  | _, .simplify hp => Phrase.tidy_simplify hp.tidy
  | _, .ofSentence hs => hs.tidy.phrase

/-- Every step that makes a sentence keeps its flags trustworthy. -/
theorem Sentence.Reachable.tidy : ∀ {s : Sentence}, s.Reachable → s.Tidy
  | _, .ofPhrase hp => .basic hp.tidy fun hb => absurd hb Bool.false_ne_true
  | _, .ofAlternatives h => Sentence.tidy_ofAlternatives fun ss hss s hs => (h ss hss s hs).tidy
  | _, .setOccurrence hs h => Sentence.tidy_setOccurrence hs.tidy h
  | _, .setOptional hs h | _, .withOccurrence hs h => Sentence.tidy_edit_occurring hs.tidy h
  | _, .append hs ht h => Sentence.tidy_append hs.tidy ht.tidy h
  | _, .addFirstOption hs ht h => Sentence.tidy_addFirstOption hs.tidy ht.tidy h
  | _, .simplify hs => (Sentence.normal_simplify hs.tidy).tidy
  | _, .assemble hc h => Sentence.tidy_assemble (fun t ht => (hc t ht).tidy) h
  | _, .member h hss hs => h.tidy.member _ hss _ hs

end

/-! ## What can be made -/

/-- Any elements make a phrase. -/
theorem Phrase.reachable_open (es : List Element) : (Phrase.mk es false).Reachable := by
  induction es using List.reverseRecOn with
  | nil => exact .new
  | append_singleton es e ih => exact .add ih rfl

namespace Sentence

/-- Any sentence without flags can be made. -/
theorem reachable_cleared : ∀ s : Sentence, s.cleared.Reachable := by
  refine induction (fun p o b => ?_) fun alts o b ih => ?_
  · exact .withOccurrence (o := o) (.ofPhrase (Phrase.reachable_open p.elements)) rfl
  · rw [cleared, clearedAlternatives_eq]
    refine .withOccurrence (s := .ofAlternatives (alts.map (List.map cleared))) (o := o) ?_ rfl
    refine .ofAlternatives ?_
    intro ss hss s hs
    obtain ⟨ss, hss', rfl⟩ := List.mem_map.1 hss
    obtain ⟨s, hs', rfl⟩ := List.mem_map.1 hs
    exact ih ss hss' s hs'

theorem reachable_of_cleared {s : Sentence} (h : s.cleared = s) : s.Reachable :=
  h ▸ reachable_cleared s

/-- A sentence that is flagged as simplified is normal, however it was made, and simplifying it anew
without any flag gives it back. -/
theorem normal_of_simplified {s : Sentence} (hs : s.Reachable) (h : s.simplified = true) :
    s.Normal ∧ s.cleared.simplify = s :=
  ⟨hs.tidy.normal h, simplify_cleared (hs.tidy.normal h)⟩

/-- An alternation that was simplified before it got its occurrence. -/
def repeatedPlaces : Sentence :=
  Chain.placesThenName.first.simplify.quantify Chain.placesThenName.pending

theorem normal_of_simplified_repeatedPlaces :
    repeatedPlaces.Reachable ∧ repeatedPlaces.simplified = true ∧
      repeatedPlaces.Normal ∧ repeatedPlaces.cleared.simplify = repeatedPlaces := by
  have hr : repeatedPlaces.Reachable := by
    refine .assemble
      (c := ⟨Chain.placesThenName.first.simplify, Chain.placesThenName.pending, none⟩) ?_ rfl
    intro t ht
    obtain rfl := List.mem_singleton.1 ht
    exact .simplify (reachable_of_cleared rfl)
  have hs : repeatedPlaces.simplified = true := by decide
  exact ⟨hr, hs, normal_of_simplified hr hs⟩

end Sentence

end CorpusQuery
