import CorpusQuery.Proofs.Simplification

/-!
# Merging does not depend on brackets

A pass that merges neighbours leaves a list in which none merge (`Neighbours.settled_merge`), as
long as the rule is steady: who refuses a neighbour also refuses what the neighbour grows into. If
it is associative besides, a part of the list may be passed over on its own before the whole is
(`Neighbours.merge_splice`).

The rule for elements is both: an occurrence without a gap is a fewest and a greatest count, and
merging adds them (`Occurrence.merge_eq_some`). It is associative as long as the least counts add up
to no more than the largest count (`Element.merge_associates`), since their sum must not be out of
range in one bracketing only.
-/

namespace CorpusQuery

namespace Neighbours

variable {α : Type} {rule : α → α → Option α}

/-- No two neighbours merge. -/
def Settled (rule : α → α → Option α) (as : List α) : Prop :=
  as.IsChain fun a b => rule a b = none

/-- What does not merge with its right neighbour does not merge with what that grows into. -/
def Steady (rule : α → α → Option α) : Prop :=
  ∀ ⦃a b c d⦄, rule a b = none → rule b c = some d → rule a d = none

/-! ## The list after a pass -/

theorem settled_cons_mergeFrom (h : Steady rule) (a : α) (bs : List α) :
    ∀ x, rule x a = none → Settled rule (x :: mergeFrom rule a bs) := by
  fun_induction mergeFrom rule a bs with
  | case1 a =>
    intro x hx
    exact List.isChain_cons_cons.2 ⟨hx, List.isChain_singleton a⟩
  | case2 a b bs c hc ih =>
    intro x hx
    exact ih x (h hx hc)
  | case3 a b bs hb ih =>
    intro x hx
    exact List.isChain_cons_cons.2 ⟨hx, ih a hb⟩

theorem settled_mergeFrom (h : Steady rule) (a : α) (bs : List α) :
    Settled rule (mergeFrom rule a bs) := by
  fun_induction mergeFrom rule a bs with
  | case1 a => exact List.isChain_singleton a
  | case2 a b bs c hc ih => exact ih
  | case3 a b bs hb ih => exact settled_cons_mergeFrom h b bs a hb

theorem settled_merge (h : Steady rule) : ∀ as : List α, Settled rule (merge rule as)
  | [] => List.isChain_nil
  | a :: as => settled_mergeFrom h a as

theorem settled_mergeOnto (h : Steady rule) :
    ∀ {as : List α} (bs : List α), Settled rule as → Settled rule (mergeOnto rule as bs)
  | [], bs, _ => settled_merge h bs
  | [a], bs, _ => settled_mergeFrom h a bs
  | a :: b :: as, bs, hs => by
    obtain ⟨hab, hs⟩ := List.isChain_cons_cons.1 hs
    -- the list stays as it is but for its last element, which is the next one if `as` is empty
    match as with
    | [] => exact settled_cons_mergeFrom h b bs a hab
    | c :: as => exact List.isChain_cons_cons.2 ⟨hab, settled_mergeOnto h bs hs⟩

theorem mergeFrom_of_settled : ∀ {a : α} {bs : List α}, Settled rule (a :: bs) →
    mergeFrom rule a bs = a :: bs
  | _, [], _ => rfl
  | a, b :: bs, h => by
    obtain ⟨hab, hs⟩ := List.isChain_cons_cons.1 h
    rw [mergeFrom, hab, mergeFrom_of_settled hs]

theorem merge_of_settled : ∀ {as : List α}, Settled rule as → merge rule as = as
  | [], _ => rfl
  | _ :: _, h => mergeFrom_of_settled h

theorem merge_merge (h : Steady rule) (as : List α) : merge rule (merge rule as) = merge rule as :=
  merge_of_settled (settled_merge h as)

/-! ## Passes in a row -/

theorem mergeOnto_nil : ∀ as : List α, mergeOnto rule as [] = as
  | [] => rfl
  | [_] => rfl
  | a :: b :: as => by rw [mergeOnto, mergeOnto_nil (b :: as)]

theorem mergeOnto_ne_nil : ∀ {as : List α} (bs : List α), as ≠ [] → mergeOnto rule as bs ≠ []
  | [a], bs, _ => mergeFrom_ne_nil rule a bs
  | _ :: _ :: _, _, _ => List.cons_ne_nil _ _

theorem mergeOnto_cons (a : α) : ∀ {as : List α} (bs : List α), as ≠ [] →
    mergeOnto rule (a :: as) bs = a :: mergeOnto rule as bs
  | _ :: _, _, _ => rfl

theorem mergeFrom_append (a : α) (bs cs : List α) :
    mergeFrom rule a (bs ++ cs) = mergeOnto rule (mergeFrom rule a bs) cs := by
  fun_induction mergeFrom rule a bs with
  | case1 a => rfl
  | case2 a b bs c hc ih =>
    rw [List.cons_append, mergeFrom, hc]
    exact ih
  | case3 a b bs hb ih =>
    rw [List.cons_append, mergeFrom, hb, mergeOnto_cons a cs (mergeFrom_ne_nil rule b bs)]
    exact congrArg (a :: ·) ih

/-- A pass can be taken up where another ended. -/
theorem mergeOnto_append : ∀ as bs cs : List α,
    mergeOnto rule as (bs ++ cs) = mergeOnto rule (mergeOnto rule as bs) cs
  | [], [], cs => rfl
  | [], b :: bs, cs => mergeFrom_append b bs cs
  | [a], bs, cs => mergeFrom_append a bs cs
  | a :: b :: as, bs, cs => by
    have hne : mergeOnto rule (b :: as) bs ≠ [] := mergeOnto_ne_nil bs (List.cons_ne_nil b as)
    rw [mergeOnto, mergeOnto, mergeOnto_cons a cs hne, mergeOnto_append (b :: as) bs cs]

theorem merge_append (as bs : List α) :
    merge rule (as ++ bs) = mergeOnto rule (merge rule as) bs :=
  mergeOnto_append [] as bs

/-! ## Passes over a part -/

/-- Among three neighbours that `P` holds of, the order of two merges does not matter. -/
structure Associates (rule : α → α → Option α) (P : List α → Prop) : Prop where
  steady : Steady rule
  part : ∀ {as bs}, as.Sublist bs → P bs → P as
  step : ∀ xs a b c ys, rule a b = some c → P (xs ++ a :: b :: ys) → P (xs ++ c :: ys)
  assoc : ∀ {a b c d e}, P [a, b, c] → rule a b = some d → rule b c = some e →
    ∃ f, rule d c = some f ∧ rule a e = some f

variable {P : List α → Prop}

theorem Associates.mergeFrom_mergeFrom (h : Associates rule P) (b : α) (bs : List α) :
    ∀ a, P (a :: b :: bs) →
      mergeFrom rule a (mergeFrom rule b bs) = mergeFrom rule a (b :: bs) := by
  fun_induction mergeFrom rule b bs with
  | case1 b => exact fun _ _ => rfl
  | case2 b c bs d hd ih =>
    intro a hP
    rw [ih a (h.step [a] b c d bs hd hP)]
    cases hab : rule a b with
    | none =>
      have had : rule a d = none := h.steady hab hd
      simp only [mergeFrom, hab, had, hd]
    | some e =>
      have h3 : P [a, b, c] := h.part (by simp) hP
      obtain ⟨f, hec, had⟩ := h.assoc h3 hab hd
      simp only [mergeFrom, hab, hec, had]
  | case3 b c bs hbc ih =>
    intro a hP
    have hb : P (b :: c :: bs) := h.part (List.sublist_cons_self a _) hP
    cases hab : rule a b with
    | none => simp only [mergeFrom, hab, hbc, ih b hb]
    | some e =>
      have he : P (e :: c :: bs) := h.step [] a b e (c :: bs) hab hP
      simp only [mergeFrom, hab, ih e he]

/-- The second list may be passed over on its own first. -/
theorem Associates.mergeOnto_merge (h : Associates rule P) :
    ∀ as bs : List α, P (as ++ bs) → mergeOnto rule as (merge rule bs) = mergeOnto rule as bs
  | as, [], _ => rfl
  | [], b :: bs, _ => merge_of_settled (settled_merge h.steady (b :: bs))
  | [a], b :: bs, hP => h.mergeFrom_mergeFrom b bs a hP
  | a :: a' :: as, b :: bs, hP => by
    have hP' : P (a' :: as ++ b :: bs) := h.part (List.sublist_cons_self a _) hP
    rw [mergeOnto, mergeOnto, h.mergeOnto_merge (a' :: as) (b :: bs) hP']

/-- A part of the list may be passed over on its own first. -/
theorem Associates.merge_splice (h : Associates rule P) {xs ys zs : List α}
    (hP : P (xs ++ (ys ++ zs))) :
    merge rule (xs ++ (merge rule ys ++ zs)) = merge rule (xs ++ (ys ++ zs)) := by
  have hxy : P (xs ++ ys) := h.part ((List.sublist_append_left ys zs).append_left xs) hP
  have hm : P (merge rule xs ++ ys) :=
    merge_keeps (P := fun l => P (l ++ ys))
      (fun us a b c vs hc hl => by
        have := h.step us a b c (vs ++ ys) hc (by simpa using hl)
        simpa using this) hxy
  calc merge rule (xs ++ (merge rule ys ++ zs))
      = mergeOnto rule (mergeOnto rule (merge rule xs) (merge rule ys)) zs := by
        rw [merge_append, mergeOnto_append]
    _ = mergeOnto rule (mergeOnto rule (merge rule xs) ys) zs := by rw [h.mergeOnto_merge _ _ hm]
    _ = merge rule (xs ++ (ys ++ zs)) := by rw [merge_append, mergeOnto_append]

theorem Associates.merge_append_merge (h : Associates rule P) {as bs : List α}
    (hP : P (as ++ bs)) : merge rule (as ++ merge rule bs) = merge rule (as ++ bs) := by
  rw [← List.append_nil bs] at hP
  have hs := h.merge_splice hP
  rwa [List.append_nil, List.append_nil] at hs

end Neighbours

/-! ## Occurrences -/

namespace Occurrence

/-- The smallest count that the occurrence allows. -/
def fewest (o : Occurrence) : ℕ :=
  if o.optional then 0 else o.least

/-- All counts from the fewest to the greatest are allowed. -/
def Gapless (o : Occurrence) : Prop :=
  o.optional = true → o.least = 1

theorem fewest_le_least (o : Occurrence) : o.fewest ≤ o.least := by
  unfold fewest
  split_ifs <;> omega

/-- An occurrence without a gap is told by its bounds. -/
theorem Gapless.ext {a b : Occurrence} (ha : a.Gapless) (hb : b.Gapless)
    (hf : a.fewest = b.fewest) (hm : a.most = b.most) : a = b := by
  obtain ⟨la, ma, oa, ha1, hal, hau⟩ := a
  obtain ⟨lb, mb, ob, hb1, hbl, hbu⟩ := b
  simp only [Gapless] at ha hb
  simp only at hm
  cases oa <;> cases ob <;> simp_all [fewest]
  · omega
  · omega

/-- Merging adds the fewest and the greatest counts of two occurrences without a gap. -/
theorem merge_eq_some {a b c : Occurrence} (h : a.merge b = some c) :
    a.Gapless ∧ b.Gapless ∧ c.Gapless ∧ c.fewest = a.fewest + b.fewest ∧
      c.most = a.mostTogether b := by
  unfold merge at h
  split at h <;> rename_i ha hb <;> split_ifs at h with hc <;> cases h <;>
    simp [Gapless, fewest, ha, hb, hc]

theorem exists_merge {a b : Occurrence} (ha : a.Gapless) (hb : b.Gapless)
    (h : a.fewest + b.fewest ≤ unbounded) : ∃ c, a.merge b = some c := by
  unfold merge
  split <;> rename_i hao hbo <;> simp only [fewest, hao, hbo] at h
  · exact ⟨_, dif_pos (by simpa using h)⟩
  · exact ⟨_, if_pos (hb hbo)⟩
  · exact ⟨_, if_pos (ha hao)⟩
  · exact ⟨_, if_pos ⟨ha hao, hb hbo⟩⟩

theorem merge_steady : Neighbours.Steady merge := by
  intro a b c d hab hbc
  obtain ⟨hb, -, -, hd, -⟩ := merge_eq_some hbc
  by_contra had
  obtain ⟨e, he⟩ := Option.ne_none_iff_exists'.1 had
  obtain ⟨ha, -, -, hef, -⟩ := merge_eq_some he
  have hu : e.fewest ≤ unbounded :=
    e.fewest_le_least.trans (e.least_le_most.trans e.most_le_unbounded)
  obtain ⟨f, hf⟩ := exists_merge ha hb (by omega)
  rw [hab] at hf
  cases hf

theorem merge_assoc {a b c d e : Occurrence} (h : a.least + b.least + c.least ≤ unbounded)
    (hab : a.merge b = some d) (hbc : b.merge c = some e) :
    ∃ f, d.merge c = some f ∧ a.merge e = some f := by
  obtain ⟨ha, -, hd, hdf, hdm⟩ := merge_eq_some hab
  obtain ⟨-, hc, he, hef, hem⟩ := merge_eq_some hbc
  have h1 := a.fewest_le_least
  have h2 := b.fewest_le_least
  have h3 := c.fewest_le_least
  obtain ⟨f, hf⟩ := exists_merge hd hc (by omega)
  obtain ⟨g, hg⟩ := exists_merge ha he (by omega)
  obtain ⟨-, -, hf', hff, hfm⟩ := merge_eq_some hf
  obtain ⟨-, -, hg', hgf, hgm⟩ := merge_eq_some hg
  have hfg : f = g := by
    refine hf'.ext hg' (by omega) ?_
    -- both bounds are the sum of the three, or `unbounded` if that is too large
    rw [hfm, hgm]
    unfold mostTogether at *
    omega
  exact ⟨f, hf, hfg ▸ hg⟩

theorem least_merge_le {a b c : Occurrence} (h : a.merge b = some c) :
    c.least ≤ a.least + b.least := by
  unfold merge at h
  have ha := a.one_le_least
  split at h <;> split_ifs at h <;> cases h <;> simp only <;> omega

end Occurrence

/-! ## Elements -/

namespace Element

/-- The sum of the least counts of the elements. -/
def totalLeast (es : List Element) : ℕ :=
  (es.map (·.occurrence.least)).sum

@[simp] theorem totalLeast_nil : totalLeast [] = 0 :=
  rfl

@[simp] theorem totalLeast_cons (e : Element) (es : List Element) :
    totalLeast (e :: es) = e.occurrence.least + totalLeast es := by
  simp [totalLeast]

@[simp] theorem totalLeast_append (es fs : List Element) :
    totalLeast (es ++ fs) = totalLeast es + totalLeast fs := by
  simp [totalLeast]

theorem merge_of_content {a b : Element} {o : Occurrence} (hc : a.content = b.content)
    (ho : a.occurrence.merge b.occurrence = some o) :
    merge a b = some { a with occurrence := o } := by
  rw [merge, if_pos hc, ho, Option.map_some]

theorem merge_steady : Neighbours.Steady merge := by
  intro a b c d hab hbc
  obtain ⟨hdb, hbc, ho⟩ := merge_eq_some hbc
  by_contra had
  obtain ⟨e, he⟩ := Option.ne_none_iff_exists'.1 had
  obtain ⟨-, had, hoe⟩ := merge_eq_some he
  have hn : a.occurrence.merge b.occurrence = none := by
    cases hm : a.occurrence.merge b.occurrence with
    | none => rfl
    | some o =>
      rw [merge_of_content (had.trans hdb) hm] at hab
      cases hab
  rw [Occurrence.merge_steady hn ho] at hoe
  cases hoe

theorem merge_associates :
    Neighbours.Associates merge fun es => totalLeast es ≤ unbounded where
  steady := merge_steady
  part hs h := le_trans ((hs.map _).sum_le_sum fun _ _ => Nat.zero_le _) h
  step xs a b c ys hc h := by
    have hl := Occurrence.least_merge_le (merge_eq_some hc).2.2
    simp only [totalLeast_append, totalLeast_cons] at h ⊢
    omega
  assoc {a b c d e} h hab hbc := by
    obtain ⟨hda, hab', hd⟩ := merge_eq_some hab
    obtain ⟨heb, hbc', he⟩ := merge_eq_some hbc
    simp only [totalLeast_cons, totalLeast_nil] at h
    obtain ⟨o, h1, h2⟩ := Occurrence.merge_assoc (by omega) hd he
    refine ⟨{ a with occurrence := o }, ?_, ?_⟩
    · rw [merge_of_content (hda.trans (hab'.trans hbc')) h1, hda]
    · exact merge_of_content (hab'.trans heb.symm) h2

end Element

/-! ## Phrases -/

namespace Phrase

/-- No two neighbours of the phrase merge. -/
abbrev Settled (p : Phrase) : Prop :=
  Neighbours.Settled Element.merge p.elements

theorem settled_simplify {p : Phrase} (h : p.simplified = true → p.Settled) :
    p.simplify.Settled := by
  unfold simplify
  split_ifs with hp
  · exact h hp
  · exact Neighbours.settled_merge Element.merge_steady p.elements

theorem settled_fuse {p : Phrase} (q : Phrase) (hp : p.simplified = true) (h : p.Settled) :
    (p.fuse q).Settled := by
  unfold fuse Settled
  rw [if_pos hp]
  exact Neighbours.settled_mergeOnto Element.merge_steady q.elements h

/-- Phrases may be put together from the right as well as from the left. -/
theorem fuse_fuse {p q : Phrase} (r : Phrase) (hp : p.simplified = true) (hq : q.simplified = true)
    (h : q.Settled)
    (hl : Element.totalLeast (p.elements ++ (q.elements ++ r.elements)) ≤ unbounded) :
    (p.fuse q).fuse r = p.fuse (q.fuse r) := by
  have hqr : Neighbours.mergeOnto Element.merge q.elements r.elements
      = Neighbours.merge Element.merge (q.elements ++ r.elements) := by
    rw [Neighbours.merge_append, Neighbours.merge_of_settled h]
  simp only [fuse, hp, hq, if_true, hqr]
  rw [Element.merge_associates.mergeOnto_merge _ _ hl, Neighbours.mergeOnto_append]

end Phrase

end CorpusQuery
