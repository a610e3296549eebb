import CorpusQuery.Compiler
import CorpusQuery.Proofs.Assembly

/-!
# Composites without alternatives

A composite without alternatives says nothing, and a sentence that has one anywhere
(`Sentence.Hollow`) has no plan. The builders that a chain is assembled by keep it in its place: a
sentence is grouped before anything follows it, and vacant phrases, which do give way, hold no
composite. Only a first option is added to the alternatives of what is there, so it takes the place
of a composite without any that stands once. A part of a chain that no alternation loses in this way
(`Chain.Keeps`) makes the whole chain fail if it is hollow (`Compiler.compileChain_hollow`).
-/

namespace CorpusQuery

namespace Sentence

/-- There is a composite without alternatives in the sentence. -/
inductive Hollow : Sentence → Prop
  | composite {o b} : Hollow (.composite [] o b)
  | within {alts o b ss s} : ss ∈ alts → s ∈ ss → Hollow s → Hollow (.composite alts o b)

theorem not_hollow_basic {p : Phrase} {o : Occurrence} {b : Bool} : ¬ (basic p o b).Hollow :=
  nofun

theorem Hollow.not_filled {s : Sentence} (h : s.Hollow) : ¬ s.Filled := by
  induction h with
  | composite => exact fun hf => (filled_composite.1 hf).1 rfl
  | within hss hs _ ih => exact fun hf => ih (((filled_composite.1 hf).2 _ hss).2 _ hs)

/-- What simplification makes of a hollow sentence has no plan either. -/
theorem Hollow.toPlan_simplify {s : Sentence} (h : s.Hollow) (g : Option Plan.Ignore) :
    ∃ v, s.simplify.toPlan g = .error (.nothingToLower v) := by
  have hs := toPlan_language g s.simplify
  rw [vacancy_simplify] at hs
  rcases ok_or_error hs with ⟨hv, -⟩ | ⟨v, -, hp⟩
  · exact absurd (vacancy_eq_none.1 hv) h.not_filled
  · exact ⟨v, hp⟩

/-! ## Builders -/

theorem Hollow.occurring {s : Sentence} (h : s.Hollow) (o : Occurrence) :
    (s.occurring o).Hollow := by
  cases h with
  | composite => exact .composite
  | within hss hs h => exact .within hss hs h

theorem Hollow.reopened {s : Sentence} (h : s.Hollow) : s.reopened.Hollow := by
  cases h with
  | composite => exact .composite
  | within hss hs h => exact .within hss hs h

theorem Hollow.grouped {s : Sentence} (h : s.Hollow) : s.grouped.Hollow :=
  .within (List.mem_singleton_self _) (List.mem_singleton_self _) h

theorem Hollow.quantify {s : Sentence} (h : s.Hollow) (o : Occurrence) : (s.quantify o).Hollow := by
  unfold Sentence.quantify
  split_ifs
  · exact h
  · exact h.occurring o
  · exact h.grouped.occurring o

theorem hollow_followedBy {s t : Sentence} (hs : s.isSingle = true) (h : s.Hollow ∨ t.Hollow) :
    (s.followedBy t).Hollow := by
  have hpair : (ofAlternatives [[s, t]]).Hollow := by
    rcases h with h | h
    · exact .within (List.mem_singleton_self _) List.mem_cons_self h
    · exact .within (List.mem_singleton_self _) (by simp) h
  unfold followedBy
  split
  · split_ifs
    · exact (h.elim not_hollow_basic not_hollow_basic).elim
    · exact hpair
  · rename_i alts o b
    split_ifs
    · obtain ⟨ss, rfl⟩ : ∃ ss, alts = [ss] := by
        simpa [isSingle, List.length_eq_one_iff] using hs
      rcases h with h | h
      · cases h with
        | within hss hu hu' =>
          obtain rfl := List.mem_singleton.1 hss
          exact .within (List.mem_singleton_self _) (List.mem_append_left _ hu) hu'
      · exact .within (List.mem_singleton_self _) (by simp) h
    · exact hpair
  · exact hpair

/-- A first option leaves nothing out but the composite whose only alternative it becomes. -/
theorem hollow_preferring {s t : Sentence} (hs : s.simplified = false)
    (h : t.Hollow ∨ s.Hollow ∧ s ≠ ofAlternatives []) : (s.preferring t).Hollow := by
  have hpair : (ofAlternatives [[t], [s]]).Hollow := by
    rcases h with h | ⟨h, -⟩
    · exact .within List.mem_cons_self (List.mem_singleton_self _) h
    · exact .within (by simp) (List.mem_singleton_self _) h
  unfold preferring
  split
  · rename_i alts o b
    split_ifs with ho
    · rcases h with h | ⟨h, hne⟩
      · exact .within List.mem_cons_self (List.mem_singleton_self _) h
      · cases h with
        | composite =>
          obtain rfl := eq_once_of_isOnce ho
          obtain rfl : b = false := hs
          exact absurd rfl hne
        | within hss hu hu' => exact .within (List.mem_cons_of_mem _ hss) hu hu'
    · exact hpair
  · exact hpair

theorem append_open {s : Sentence} (hs : s.simplified = false) (t : Sentence) :
    s.append t
      = .ok (if s.isVacant && s.occurrence.isOnce then t.reopened else s.followedBy t) := by
  rw [append, edit, hs]
  rfl

theorem addFirstOption_open {s : Sentence} (hs : s.simplified = false) (t : Sentence) :
    s.addFirstOption t
      = .ok (if s.isVacant && s.occurrence.isOnce then t.reopened else s.preferring t) := by
  rw [addFirstOption, edit, hs]
  rfl

theorem simplified_reopened (s : Sentence) : s.reopened.simplified = false := by
  cases s <;> rfl

/-- What is vacant and stands once is a phrase, and so not hollow. -/
theorem not_hollow_of_isVacant {s : Sentence} (h : (s.isVacant && s.occurrence.isOnce) = true) :
    ¬ s.Hollow := by
  cases s with
  | basic => exact not_hollow_basic
  | composite => simp [isVacant] at h

/-- Grouped if it has several alternatives or none, a sentence is single, and hollow if it was. -/
theorem single_or_grouped {s : Sentence} (hs : s.simplified = false) :
    ∃ u, (if s.isSingle then s else s.grouped) = u ∧ u.isSingle = true ∧ u.simplified = false ∧
      (s.Hollow → u.Hollow) := by
  split_ifs with h
  · exact ⟨s, rfl, h, hs, id⟩
  · exact ⟨s.grouped, rfl, rfl, rfl, Hollow.grouped⟩

theorem append_hollow {s t u : Sentence} (hs : s.simplified = false) (h1 : s.isSingle = true)
    (hu : s.append t = .ok u) (h : s.Hollow ∨ t.Hollow) : u.Hollow := by
  rw [append_open hs] at hu
  obtain rfl := Except.ok.inj hu
  split_ifs with hv
  · exact (h.resolve_left (not_hollow_of_isVacant hv)).reopened
  · exact hollow_followedBy h1 h

theorem addFirstOption_hollow {s t u : Sentence} (hs : s.simplified = false)
    (hu : s.addFirstOption t = .ok u) (h : t.Hollow ∨ s.Hollow ∧ s ≠ ofAlternatives []) :
    u.Hollow := by
  rw [addFirstOption_open hs] at hu
  obtain rfl := Except.ok.inj hu
  split_ifs with hv
  · exact (h.resolve_right fun h => not_hollow_of_isVacant hv h.1).reopened
  · exact hollow_preferring hs h

end Sentence

/-! ## Chains -/

namespace Chain

open Sentence

/-- The sentence is one of the chain, and in no alternation on its way is the rest a composite
without alternatives that stands once. -/
inductive Keeps : Chain → Sentence → Prop
  | first {s o r} : Keeps ⟨s, o, r⟩ s
  | sequence {s o c t} : Keeps c t → Keeps ⟨s, o, some (.sequence, c)⟩ t
  | alternation {s o c t} : Keeps c t → c.assemble ≠ .ok (ofAlternatives []) →
      Keeps ⟨s, o, some (.alternation, c)⟩ t

theorem assemble_sequence {s u t : Sentence} {o : Occurrence} {c : Chain} (ht : c.assemble = .ok t)
    (hu : (if (s.quantify o).isSingle then s.quantify o else (s.quantify o).grouped) = u) :
    assemble ⟨s, o, some (.sequence, c)⟩ = u.append t := by
  rw [assemble, ht]
  exact congrArg (·.append t) hu

theorem assemble_alternation {s t : Sentence} {o : Occurrence} {c : Chain}
    (ht : c.assemble = .ok t) :
    assemble ⟨s, o, some (.alternation, c)⟩ = t.addFirstOption (s.quantify o) := by
  rw [assemble, ht]
  rfl

/-- Sentences that are open to edits can be assembled, whatever they hold. -/
theorem assemble_open : ∀ c : Chain, (∀ s ∈ c.sentences, s.simplified = false) →
    ∃ t, c.assemble = .ok t ∧ t.simplified = false
  | ⟨s, o, none⟩, hc =>
    ⟨s.quantify o, rfl, simplified_quantify (hc s (List.mem_singleton_self s)) o⟩
  | ⟨s, o, some (.sequence, c)⟩, hc => by
    obtain ⟨t, ht, -⟩ := assemble_open c fun s hs => hc s (List.mem_cons_of_mem _ hs)
    obtain ⟨u, hu, -, hus, -⟩ :=
      single_or_grouped (simplified_quantify (hc s List.mem_cons_self) o)
    rw [assemble_sequence ht hu, append_open hus]
    refine ⟨_, rfl, ?_⟩
    split_ifs
    · exact simplified_reopened t
    · exact simplified_followedBy hus t
  | ⟨s, o, some (.alternation, c)⟩, hc => by
    obtain ⟨t, ht, hts⟩ := assemble_open c fun s hs => hc s (List.mem_cons_of_mem _ hs)
    rw [assemble_alternation ht, addFirstOption_open hts]
    refine ⟨_, rfl, ?_⟩
    split_ifs
    · exact simplified_reopened _
    · exact simplified_preferring hts _

/-- An alternation to a composite without alternatives is its first sentence alone. -/
theorem assemble_bare {s : Sentence} {o : Occurrence} {c : Chain}
    (hc : c.assemble = .ok (ofAlternatives [])) :
    assemble ⟨s, o, some (.alternation, c)⟩ = .ok (s.quantify o).grouped := by
  rw [assemble_alternation hc]
  rfl

theorem sequence_hollow {s t u : Sentence} {o : Occurrence} {c : Chain}
    (hs : s.simplified = false) (ht : c.assemble = .ok t)
    (hu : assemble ⟨s, o, some (.sequence, c)⟩ = .ok u) (h : s.Hollow ∨ t.Hollow) : u.Hollow := by
  obtain ⟨v, hv, hv1, hvs, hvh⟩ := single_or_grouped (simplified_quantify hs o)
  rw [assemble_sequence ht hv] at hu
  exact append_hollow hvs hv1 hu (h.imp_left fun h => hvh (h.quantify o))

theorem alternation_hollow {s t u : Sentence} {o : Occurrence} {c : Chain}
    (hts : t.simplified = false) (ht : c.assemble = .ok t)
    (hu : assemble ⟨s, o, some (.alternation, c)⟩ = .ok u)
    (h : s.Hollow ∨ t.Hollow ∧ t ≠ ofAlternatives []) : u.Hollow := by
  rw [assemble_alternation ht] at hu
  exact addFirstOption_hollow hts hu (h.imp_left fun h => h.quantify o)

/-- The sentence of a chain that keeps a hollow one is hollow. -/
theorem assemble_hollow {c : Chain} {s : Sentence} (hk : c.Keeps s) (hh : s.Hollow)
    (hc : ∀ t ∈ c.sentences, t.simplified = false) {u : Sentence} (hu : c.assemble = .ok u) :
    u.Hollow := by
  induction hk generalizing u with
  | @first s o r =>
    obtain _ | ⟨_ | _, c⟩ := r
    · obtain rfl := Except.ok.inj hu
      exact hh.quantify o
    · obtain ⟨hs, hr⟩ := List.forall_mem_cons.1 hc
      obtain ⟨t, ht, -⟩ := assemble_open c hr
      exact sequence_hollow hs ht hu (.inl hh)
    · obtain ⟨t, ht, hts⟩ := assemble_open c (List.forall_mem_cons.1 hc).2
      exact alternation_hollow hts ht hu (.inl hh)
  | @sequence s o c _ _ ih =>
    obtain ⟨hs, hr⟩ := List.forall_mem_cons.1 hc
    obtain ⟨t, ht, -⟩ := assemble_open c hr
    exact sequence_hollow hs ht hu (.inr (ih hh hr ht))
  | @alternation s o c _ _ hne ih =>
    have hr := (List.forall_mem_cons.1 hc).2
    obtain ⟨t, ht, hts⟩ := assemble_open c hr
    refine alternation_hollow hts ht hu (.inr ⟨ih hh hr ht, ?_⟩)
    rintro rfl
    exact hne ht

end Chain

namespace Compiler

open Sentence

/-- A chain of open sentences that keeps a hollow one has no plan, wherever it stands. -/
theorem compileChain_hollow (k : Compiler) {d : Chain} {s : Sentence}
    (hd : ∀ t ∈ d.sentences, t.simplified = false) (hs : d.Keeps s) (hh : s.Hollow) :
    ∃ v, k.compileChain d = .error (.nothingToLower v) := by
  obtain ⟨t, ht, -⟩ := d.assemble_open hd
  obtain ⟨v, hv⟩ := (Chain.assemble_hollow hs hh hd ht).toPlan_simplify k.ignore
  refine ⟨v, ?_⟩
  rw [compileChain, ht]
  exact hv

/-- A name two or three times, or else a name before a composite without alternatives. -/
def nameOrHole : Chain where
  first := repeatedName
  pending := Chain.placesThenName.pending
  rest := some (.alternation, Chain.ofSentence
    (ofAlternatives [[repeatedName, (ofAlternatives []).occurring .atMostOnce]]))

theorem compileChain_hollow_nameOrHole :
    (∀ t ∈ nameOrHole.sentences, t.simplified = false) ∧
      (∃ s, nameOrHole.Keeps s ∧ s.Hollow) ∧
      ∃ v, Compiler.compileChain {} nameOrHole = .error (.nothingToLower v) := by
  have hopen : ∀ t ∈ nameOrHole.sentences, t.simplified = false := by decide
  have hk : nameOrHole.Keeps _ := .alternation .first (by decide +kernel)
  have hh : (ofAlternatives [[repeatedName, (ofAlternatives []).occurring .atMostOnce]]).Hollow :=
    .within (List.mem_singleton_self _) (List.mem_cons_of_mem _ List.mem_cons_self) .composite
  exact ⟨hopen, ⟨_, hk, hh⟩, compileChain_hollow {} hopen hk hh⟩

/-- A name, or a composite without alternatives. -/
def nameOrNothing : Chain :=
  (Chain.ofSentence (.ofPhrase ⟨[⟨.group (.named "text" "name" .full), .once⟩], false⟩)).withRest
    .alternation (Chain.ofSentence (ofAlternatives []))

/-- The last alternation of a chain does lose a composite without alternatives. -/
theorem compileChain_nameOrNothing :
    (∀ t ∈ nameOrNothing.sentences, t.simplified = false) ∧
      (∃ s ∈ nameOrNothing.sentences, s.Hollow) ∧
      Compiler.compileChain {} nameOrNothing = .ok (.annotated "text" "name") := by
  have h : nameOrNothing.assemble = .ok _ := Chain.assemble_bare rfl
  refine ⟨by decide, ⟨_, List.mem_of_mem_getLast? rfl, .composite⟩, ?_⟩
  rw [compileChain, h]
  cbv

end Compiler

end CorpusQuery
