import CorpusQuery.Proofs.Elements
import CorpusQuery.Proofs.Reachable

/-!
# Simplification goes part by part

Simplification is itself the fold of an algebra, one whose values are normal sentences
(`Sentence.fold_normalForms`): a sequence of them is `Sentence.inRow`, a choice between them is
`Sentence.oneOf`. A part of either may be simplified on its own first. In a choice that always holds
(`Sentence.oneOf_splice`). In a sequence it holds as long as the least counts of its elements add up
to no more than the largest count (`Sentence.inRow_splice`), as else a bracket may decide which of
two sums is out of range. So the algebra tolerates the steps of simplification within that count
(`Sentence.normalForms_tolerates`).
-/

namespace CorpusQuery.Sentence

open Neighbours

/-! ## Sequences -/

/-- The normal form of some normal sentences in a row. -/
def inRow (ss : List Sentence) : Sentence :=
  collapse [compact ss] .once

theorem fuse_basic {p q : Phrase} (b c : Bool) (hp : p.elements ≠ []) (hq : q.elements ≠ []) :
    fuse (.basic p .once b) (.basic q .once c) = some (.basic (p.fuse q) .once b) := by
  have h1 : isFusable (.basic p .once b) = true := isFusable_iff.2 ⟨p, b, rfl, hp⟩
  have h2 : isFusable (.basic q .once c) = true := isFusable_iff.2 ⟨q, c, rfl, hq⟩
  simp [fuse, h1, h2]

/-- The simplified phrase of these elements. -/
def ofElements (es : List Element) : Sentence :=
  .basic ⟨es, true⟩ .once true

theorem fuse_ofElements {es fs : List Element} (hes : es ≠ []) (hfs : fs ≠ []) :
    fuse (ofElements es) (ofElements fs)
      = some (ofElements (mergeOnto Element.merge es fs)) :=
  fuse_basic true true hes hfs

theorem fuse_elements_ne_nil {p : Phrase} (q : Phrase) (hp : p.elements ≠ []) :
    (p.fuse q).elements ≠ [] := by
  unfold Phrase.fuse
  split_ifs
  · exact mergeOnto_ne_nil q.elements hp
  · exact List.append_ne_nil_of_left_ne_nil hp _

/-- Normal sentences that stand together within the largest count. -/
structure Fits (ss : List Sentence) : Prop where
  normal : ∀ s ∈ ss, s.Normal
  within : rowLeast ss ≤ unbounded

theorem fuse_associates : Associates fuse Fits where
  steady := fuse_steady
  part hs h :=
    ⟨fun s hm => h.normal s (hs.subset hm),
      le_trans ((hs.map _).sum_le_sum fun _ _ => Nat.zero_le _) h.within⟩
  step xs s t u ys hu h := by
    obtain ⟨hn, hl⟩ := h
    have hu' := (normal_fuse hu (hn s (by simp))).1
    have hle := totalLeast_fuse hu
    refine ⟨?_, ?_⟩
    · simp only [List.forall_mem_append, List.forall_mem_cons] at hn ⊢
      obtain ⟨hxs, -, -, hys⟩ := hn
      exact ⟨hxs, hu', hys⟩
    · simp only [rowLeast, List.map_append, List.map_cons, List.sum_append, List.sum_cons] at hl ⊢
      omega
  assoc {s t u v w} h hst htu := by
    obtain ⟨hn, hl⟩ := h
    obtain ⟨p, q, b, c, rfl, rfl, hp, hq, rfl⟩ := fuse_eq_some hst
    obtain ⟨q', r, c', d, ht, rfl, -, hr, rfl⟩ := fuse_eq_some htu
    -- the neighbour in the middle is one and the same phrase
    cases ht
    rcases hn (.basic p .once b) (by simp) with ⟨hpc, -⟩ | _
    rcases hn (.basic q .once c) (by simp) with ⟨hqc, hqs⟩ | _
    have hsum : Element.totalLeast (p.elements ++ (q.elements ++ r.elements)) ≤ unbounded := by
      simpa [rowLeast, totalLeast, elements_basic] using hl
    refine ⟨_, fuse_basic true d (fuse_elements_ne_nil q hp) hr, ?_⟩
    rw [fuse_basic true true hp (fuse_elements_ne_nil r hq), Phrase.fuse_fuse r hpc hqc hqs hsum]

theorem spliced_ne_nil : ∀ s : Sentence, s.spliced ≠ [] := by
  refine induction (fun p o b => by simp [spliced]) fun alts o b ih => ?_
  unfold spliced
  split
  · rename_i s ss o b heq
    cases heq
    split_ifs
    · exact List.append_ne_nil_of_left_ne_nil (ih _ (List.mem_singleton_self _) s (by simp)) _
    · simp
  · simp

theorem splicedAll_append (ss ts : List Sentence) :
    splicedAll (ss ++ ts) = splicedAll ss ++ splicedAll ts := by
  simp [splicedAll_eq]

theorem fits_splicedAll {ss : List Sentence} (h : Fits ss) : Fits (splicedAll ss) := by
  obtain ⟨hn, hl⟩ := h
  refine ⟨?_, (rowLeast_splicedAll ss).trans hl⟩
  intro t ht
  rw [splicedAll_eq] at ht
  obtain ⟨s, hs, hts⟩ := List.mem_flatMap.1 ht
  exact (normal_of_mem_spliced (hn s hs) t hts).1

theorem compact_ne_nil {ss : List Sentence} (h : ss ≠ []) : compact ss ≠ [] := by
  unfold compact
  rw [ne_eq, merge_eq_nil_iff]
  cases ss with
  | nil => exact absurd rfl h
  | cons s ss => exact List.append_ne_nil_of_left_ne_nil (spliced_ne_nil s) _

/-- A sequence dissolves again in another one. -/
theorem spliced_inRow {ss : List Sentence} (hss : ss ≠ []) (h : ∀ s ∈ ss, s.Normal) :
    (inRow ss).spliced = compact ss := by
  have hrow := normalRow_compact h
  have hne := compact_ne_nil hss
  unfold inRow
  match hc : compact ss with
  | [] => exact absurd hc hne
  | [s] =>
    rw [hc] at hrow
    exact spliced_eq_self (hrow.unspliced s (List.mem_singleton_self s))
  | s :: t :: ts =>
    rw [hc] at hrow
    exact splicedAll_eq_self hrow.unspliced

theorem inRow_single {s : Sentence} (h : s.Normal) : inRow [s] = s := by
  have hc : compact [s] = merge fuse s.spliced := by
    rw [compact, splicedAll, splicedAll, List.append_nil]
  cases hs : s.isSpliceable with
  | false =>
    rw [inRow, hc, spliced_eq_self hs]
    rfl
  | true =>
    obtain ⟨t, ts, b, rfl⟩ := exists_of_isSpliceable hs
    obtain ⟨hspl, hrow⟩ := spliced_composite h
    obtain ⟨rfl, -, -, needed⟩ := normal_composite.1 h
    rw [inRow, hc, hspl, merge_of_settled hrow.apart, collapse_of_needed needed]

theorem normal_inRow {ss : List Sentence} (h : ∀ s ∈ ss, s.Normal) : (inRow ss).Normal := by
  refine normal_collapse ?_ (fun hl => absurd hl (by simp)) .once
  simpa using normalRow_compact h

theorem totalLeast_inRow_le (ss : List Sentence) : (inRow ss).totalLeast ≤ rowLeast ss := by
  rw [inRow, totalLeast_collapse, List.map_singleton, List.sum_singleton]
  exact rowLeast_compact ss

/-- A part of a sequence may be put in brackets. -/
theorem inRow_splice {xs ys zs : List Sentence} (hys : ys ≠ []) (h : Fits (xs ++ (ys ++ zs))) :
    inRow (xs ++ inRow ys :: zs) = inRow (xs ++ (ys ++ zs)) := by
  have hn : ∀ s ∈ ys, s.Normal := fun s hs => h.normal s (by simp [hs])
  have hf : Fits (splicedAll xs ++ (splicedAll ys ++ splicedAll zs)) := by
    simpa [splicedAll_append] using fits_splicedAll h
  have hc : compact (xs ++ inRow ys :: zs) = compact (xs ++ (ys ++ zs)) := by
    unfold compact
    rw [splicedAll_append, splicedAll_append, splicedAll_append, splicedAll, spliced_inRow hys hn]
    exact fuse_associates.merge_splice hf
  exact congrArg (fun ss => collapse [ss] .once) hc

/-! ## Alternatives -/

/-- The normal form of the choice between some normal sentences. -/
def oneOf (ss : List Sentence) : Sentence :=
  collapse (flatten (ss.map ([·]))) .once

theorem oneOf_single (s : Sentence) : oneOf [s] = s :=
  rfl

theorem length_le_flatMap_flattened (alts : List (List Sentence)) :
    alts.length ≤ (alts.flatMap flattened).length := by
  induction alts with
  | nil => exact le_rfl
  | cons ss alts ih =>
    have := List.length_pos_of_ne_nil (flattened_ne_nil ss)
    simp only [List.flatMap_cons, List.length_append, List.length_cons]
    omega

theorem collapse_of_several {alts : List (List Sentence)} (h : 1 < alts.length) (o : Occurrence) :
    collapse alts o = .composite alts o true := by
  refine collapse_of_needed ?_
  rintro s rfl
  simp at h

theorem oneOf_of_several {ss : List Sentence} (h : 1 < ss.length) :
    oneOf ss = .composite (ss.flatMap fun s => flattened [s]) .once true := by
  have hl : 1 < (ss.map fun s => [s]).length := by simpa using h
  have hf := hl.trans_le (length_le_flatMap_flattened (ss.map ([·])))
  rw [oneOf, flatten, if_pos hl, collapse_of_several hf, List.flatMap_map]

theorem flattened_oneOf {ss : List Sentence} (h : ss ≠ []) :
    flattened [oneOf ss] = ss.flatMap fun s => flattened [s] := by
  match ss with
  | [s] => rw [oneOf_single, List.flatMap_singleton]
  | s :: t :: ss =>
    rw [oneOf_of_several (by simp)]
    cases hf : (s :: t :: ss).flatMap fun s => flattened [s] with
    | nil =>
      rw [List.flatMap_cons] at hf
      exact absurd hf (List.append_ne_nil_of_left_ne_nil (flattened_ne_nil [s]) _)
    | cons alt alts => exact flattened_alternation alt alts true

theorem normal_oneOf {ss : List Sentence} (h : ∀ s ∈ ss, s.Normal) : (oneOf ss).Normal := by
  match ss with
  | [] =>
    have hc : (collapse [] .once).Normal := normal_collapse (by simp) (by simp) .once
    exact hc
  | [s] => exact h s (List.mem_singleton_self s)
  | s :: t :: ss =>
    refine normal_of_flatRows (by simp) ?_ .once
    intro row hrow
    obtain ⟨u, hu, rfl⟩ := List.mem_map.1 hrow
    exact flatRow_flattened_single (h u hu)

theorem totalLeast_oneOf_le (ss : List Sentence) : (oneOf ss).totalLeast ≤ rowLeast ss := by
  rw [oneOf, totalLeast_collapse]
  refine (sum_rowLeast_flatten _).trans ?_
  simp [rowLeast, Function.comp_def]

/-- A part of the alternatives may be put in brackets. -/
theorem oneOf_splice {ys : List Sentence} (xs zs : List Sentence) (hys : ys ≠ []) :
    oneOf (xs ++ oneOf ys :: zs) = oneOf (xs ++ (ys ++ zs)) := by
  by_cases hl : 1 < (xs ++ oneOf ys :: zs).length
  · have hl' : 1 < (xs ++ (ys ++ zs)).length := by
      have := List.length_pos_of_ne_nil hys
      simp only [List.length_append, List.length_cons] at hl ⊢
      omega
    rw [oneOf_of_several hl, oneOf_of_several hl']
    simp [flattened_oneOf hys]
  · obtain ⟨rfl, rfl⟩ : xs = [] ∧ zs = [] := by
      simp only [List.length_append, List.length_cons] at hl
      exact ⟨List.eq_nil_of_length_eq_zero (by omega), List.eq_nil_of_length_eq_zero (by omega)⟩
    rw [List.nil_append, oneOf_single, List.nil_append, List.append_nil]

theorem flattened_inRow (ss : List Sentence) : flattened [inRow ss] = flattened (compact ss) := by
  unfold inRow
  match compact ss with
  | [] => rfl
  | [s] => rfl
  | s :: t :: ts =>
    -- a sequence of several is a composite of one alternative, which is opened again
    have hf : flattened (s :: t :: ts) = [s :: t :: ts] := flattened_eq_self (by simp)
    rw [hf]
    rfl

theorem collapse_collapse (alts : List (List Sentence)) (o : Occurrence) :
    collapse [[collapse alts .once]] o = collapse alts o := by
  by_cases hs : ∃ s, alts = [[s]]
  · obtain ⟨s, rfl⟩ := hs
    rfl
  · have hc : ∀ o', collapse alts o' = .composite alts o' true := fun o' =>
      collapse_of_needed fun s h => absurd ⟨s, h⟩ hs
    rw [hc, hc, collapse_of_once rfl]
    rfl

/-- Simplification makes each alternative a sequence, chooses between them and then repeats. -/
theorem collapse_flatten_compact (rows : List (List Sentence)) (o : Occurrence) :
    collapse (flatten (rows.map compact)) o = collapse [[oneOf (rows.map inRow)]] o := by
  match rows with
  | [] => exact (collapse_collapse [] o).symm
  | [row] => exact (collapse_collapse [compact row] o).symm
  | row :: row' :: rows =>
    have hf : flatten ((row :: row' :: rows).map compact)
        = flatten (((row :: row' :: rows).map inRow).map ([·])) := by
      rw [flatten, flatten, if_pos (by simp), if_pos (by simp), List.flatMap_map,
        List.flatMap_map, List.flatMap_map]
      exact List.flatMap_congr fun ss _ => (flattened_inRow ss).symm
    rw [hf, oneOf, collapse_collapse]

/-! ## The algebra -/

/-- A normal sentence, with what the least counts of the elements that it was made of add up to. -/
@[ext] structure NormalForm where
  sentence : Sentence
  least : ℕ
  normal : sentence.Normal
  within : sentence.totalLeast ≤ least

namespace NormalForm

theorem normal_of_mem (ms : List NormalForm) : ∀ s ∈ ms.map sentence, s.Normal := by
  intro s hs
  obtain ⟨m, -, rfl⟩ := List.mem_map.1 hs
  exact m.normal

theorem rowLeast_le (ms : List NormalForm) :
    rowLeast (ms.map sentence) ≤ (ms.map least).sum := by
  rw [rowLeast, List.map_map]
  exact List.sum_le_sum fun m _ => m.within

/-- The normal form of a phrase of one element. -/
def element (e : Element) : NormalForm where
  sentence := ofElements [e]
  least := e.occurrence.least
  normal := .basic rfl (List.isChain_singleton e)
  within := by simp [ofElements, totalLeast, elements_basic]

/-- The normal form of the empty phrase. -/
def vacant : NormalForm where
  sentence := ofElements []
  least := 0
  normal := .basic rfl List.isChain_nil
  within := by simp [ofElements, totalLeast, elements_basic]

/-- Normal forms in a row: neighbours that can be one phrase become one. -/
def sequence (ms : List NormalForm) : NormalForm where
  sentence := inRow (ms.map sentence)
  least := (ms.map least).sum
  normal := normal_inRow (normal_of_mem ms)
  within := (totalLeast_inRow_le _).trans (rowLeast_le ms)

/-- Elements in a row are a sequence of phrases that become one. -/
def phrase : List NormalForm → NormalForm
  | [] => vacant
  | ms => sequence ms

/-- Normal forms that are alternatives to each other: a choice among them is dissolved. -/
def alternatives (ms : List NormalForm) : NormalForm where
  sentence := oneOf (ms.map sentence)
  least := (ms.map least).sum
  normal := normal_oneOf (normal_of_mem ms)
  within := (totalLeast_oneOf_le _).trans (rowLeast_le ms)

/-- A normal form that stands as often as an occurrence says. -/
def occurring (o : Occurrence) (m : NormalForm) : NormalForm where
  sentence := collapse [[m.sentence]] o
  least := m.least
  normal := normal_collapse_single m.normal o
  within := by
    rw [totalLeast_collapse]
    simpa [rowLeast] using m.within

theorem phrase_eq {ms : List NormalForm} (h : ms ≠ []) : phrase ms = sequence ms := by
  cases ms with
  | nil => exact absurd rfl h
  | cons m ms => rfl

theorem fits {ms : List NormalForm} (h : (ms.map least).sum ≤ unbounded) :
    Fits (ms.map sentence) :=
  ⟨normal_of_mem ms, (rowLeast_le ms).trans h⟩

theorem sequence_splice {xs ys zs : List NormalForm} (hys : ys ≠ [])
    (h : ((xs ++ (ys ++ zs)).map least).sum ≤ unbounded) :
    sequence (xs ++ sequence ys :: zs) = sequence (xs ++ (ys ++ zs)) := by
  have hf := fits h
  simp only [List.map_append] at hf
  refine NormalForm.ext ?_ (by simp [sequence])
  simpa [sequence] using inRow_splice (by simpa using hys) hf

theorem alternatives_splice (xs : List NormalForm) {ys : List NormalForm} (zs : List NormalForm)
    (hys : ys ≠ []) :
    alternatives (xs ++ alternatives ys :: zs) = alternatives (xs ++ (ys ++ zs)) := by
  have hne : ys.map sentence ≠ [] := by simpa using hys
  refine NormalForm.ext ?_ (by simp [alternatives])
  simpa [alternatives] using oneOf_splice (xs.map sentence) (zs.map sentence) hne

/-- The same sentence, made of elements that add up to no more, unless the sum is out of range. -/
def Agrees (m n : NormalForm) : Prop :=
  m.least ≤ unbounded → n.sentence = m.sentence ∧ n.least ≤ m.least

theorem Agrees.of_eq {m n : NormalForm} (h : m.least ≤ unbounded → m = n) : Agrees m n := by
  intro hl
  rw [h hl]
  exact ⟨rfl, le_rfl⟩

/-- Two elements that merge become one in a sequence. -/
theorem agrees_merge {a b c : Element} (hc : Element.merge a b = some c) :
    Agrees (sequence [element a, element b]) (element c) := by
  have hm : mergeOnto Element.merge [a] [b] = [c] := by
    simp [mergeOnto, mergeFrom, hc]
  have hf : fuse (ofElements [a]) (ofElements [b]) = some (ofElements [c]) := by
    rw [fuse_ofElements (List.cons_ne_nil a []) (List.cons_ne_nil b []), hm]
  have hs : splicedAll [ofElements [a], ofElements [b]] = [ofElements [a], ofElements [b]] := rfl
  have hr : compact [ofElements [a], ofElements [b]] = [ofElements [c]] := by
    rw [compact, hs, merge, mergeFrom, hf]
    rfl
  have hi : (sequence [element a, element b]).sentence
      = collapse [compact [ofElements [a], ofElements [b]]] .once := rfl
  intro _
  refine ⟨?_, ?_⟩
  · rw [hi, hr]
    rfl
  · have := Occurrence.least_merge_le (Element.merge_eq_some hc).2.2
    simpa [sequence, element] using this

/-- An operation on sentences that adds up least counts keeps what agrees. -/
theorem Agrees.congr {op : List NormalForm → NormalForm} (f : List Sentence → Sentence)
    (hs : ∀ ms, (op ms).sentence = f (ms.map sentence))
    (hl : ∀ ms, (op ms).least = (ms.map least).sum) (xs : List NormalForm) (m n : NormalForm)
    (ys : List NormalForm) (h : Agrees m n) : Agrees (op (xs ++ m :: ys)) (op (xs ++ n :: ys)) := by
  intro hu
  simp only [hl, hs, List.map_append, List.map_cons, List.sum_append, List.sum_cons] at hu ⊢
  -- a part of a sum in range is in range
  obtain ⟨e, l⟩ := h (by omega)
  refine ⟨?_, by omega⟩
  rw [e]

theorem flat_sequence : Flat Agrees NormalForm.sequence where
  congr := Agrees.congr inRow (fun _ => rfl) fun _ => rfl
  single m := NormalForm.ext (inRow_single m.normal) List.sum_singleton
  splice _ _ _ hys := Agrees.of_eq fun hl => sequence_splice hys (by simpa [sequence] using hl)

theorem flat_alternatives : Flat Agrees alternatives where
  congr := Agrees.congr oneOf (fun _ => rfl) fun _ => rfl
  single m := NormalForm.ext (oneOf_single m.sentence) List.sum_singleton
  splice xs _ zs hys := Agrees.of_eq fun _ => alternatives_splice xs zs hys

theorem agrees_sequence_merge (xs ys : List NormalForm) {a b c : Element}
    (hc : Element.merge a b = some c) :
    Agrees (sequence (xs ++ element a :: element b :: ys)) (sequence (xs ++ element c :: ys)) := by
  intro hl
  have hs : sequence (xs ++ sequence [element a, element b] :: ys)
      = sequence (xs ++ element a :: element b :: ys) :=
    sequence_splice (List.cons_ne_nil _ [element b]) hl
  rw [← hs] at hl ⊢
  exact flat_sequence.congr xs _ _ ys (agrees_merge hc) hl

/-- Two sequences side by side in a sequence are as good as one. -/
theorem sequence_fuse {xs es fs ys : List NormalForm} (hes : es ≠ []) (hfs : fs ≠ [])
    (h : ((xs ++ (es ++ (fs ++ ys))).map least).sum ≤ unbounded) :
    sequence (xs ++ sequence es :: sequence fs :: ys)
      = sequence (xs ++ sequence (es ++ fs) :: ys) :=
  calc sequence (xs ++ sequence es :: sequence fs :: ys)
      = sequence (xs ++ (es ++ sequence fs :: ys)) :=
        sequence_splice hes (by simpa [sequence] using h)
    _ = sequence ((xs ++ es) ++ sequence fs :: ys) := by rw [List.append_assoc]
    _ = sequence ((xs ++ es) ++ (fs ++ ys)) := sequence_splice hfs (by simpa using h)
    _ = sequence (xs ++ ((es ++ fs) ++ ys)) := by simp only [List.append_assoc]
    _ = sequence (xs ++ sequence (es ++ fs) :: ys) :=
        (sequence_splice (by simp [hes]) (by simpa using h)).symm

end NormalForm

/-- Simplification, part by part. -/
def normalForms : Algebra NormalForm where
  element := NormalForm.element
  phrase := NormalForm.phrase
  sequence := NormalForm.sequence
  alternatives := NormalForm.alternatives
  occurring := NormalForm.occurring

open NormalForm (Agrees phrase_eq) in
theorem normalForms_tolerates : normalForms.Tolerates Agrees where
  refl m := Agrees.of_eq fun _ => rfl
  trans h1 h2 hl := by
    obtain ⟨e1, l1⟩ := h1 hl
    obtain ⟨e2, l2⟩ := h2 (l1.trans hl)
    exact ⟨e2.trans e1, l2.trans l1⟩
  occurring o m n h hl := by
    obtain ⟨e, l⟩ := h hl
    exact ⟨congrArg (fun s => collapse [[s]] o) e, l⟩
  once m := NormalForm.ext rfl rfl
  merge xs a b c ys hc := by
    simp only [normalForms]
    rw [phrase_eq (by simp), phrase_eq (by simp)]
    exact NormalForm.agrees_sequence_merge xs ys hc
  fuse xs es fs ys hes hfs := by
    simp only [normalForms]
    rw [phrase_eq hes, phrase_eq hfs, phrase_eq (by simp [hes])]
    refine Agrees.of_eq fun hl => NormalForm.sequence_fuse hes hfs ?_
    simpa [NormalForm.sequence] using hl
  sequence := NormalForm.flat_sequence
  alternatives := NormalForm.flat_alternatives

/-! ## The normal form of a sentence -/

/-- A phrase takes in phrases of one element each as if it passed over the elements. -/
theorem mergeFrom_ofElements : ∀ {es : List Element} (fs : List Element), es ≠ [] →
    mergeFrom fuse (ofElements es) (fs.map fun f => ofElements [f])
      = [ofElements (mergeOnto Element.merge es fs)]
  | es, [], _ => by
    rw [mergeOnto_nil]
    rfl
  | es, f :: fs, h => by
    rw [List.map_cons, mergeFrom, fuse_ofElements h (List.cons_ne_nil f [])]
    refine (mergeFrom_ofElements fs (mergeOnto_ne_nil [f] h)).trans ?_
    rw [← mergeOnto_append, List.singleton_append]

theorem phrase_elements (es : List Element) :
    (NormalForm.phrase (es.map NormalForm.element)).sentence
      = ofElements (Phrase.coalesce es) := by
  cases es with
  | nil => rfl
  | cons e es =>
    have hs : splicedAll ((e :: es).map fun f => ofElements [f])
        = (e :: es).map fun f => ofElements [f] := by
      refine splicedAll_eq_self fun s hs => ?_
      obtain ⟨f, -, rfl⟩ := List.mem_map.1 hs
      rfl
    have hc : compact ((e :: es).map fun f => ofElements [f])
        = [ofElements (Phrase.coalesce (e :: es))] := by
      rw [compact, hs]
      exact mergeFrom_ofElements es (List.cons_ne_nil e [])
    have hi : (NormalForm.phrase ((e :: es).map NormalForm.element)).sentence
        = collapse [compact ((e :: es).map fun f => ofElements [f])] .once := by
      show inRow (((e :: es).map NormalForm.element).map NormalForm.sentence) = _
      rw [List.map_map]
      rfl
    rw [hi, hc]
    rfl

theorem simplify_basic {p : Phrase} {o : Occurrence} {b : Bool} (h : (basic p o b).Tidy) :
    (basic p o b).simplify = .basic ⟨Phrase.coalesce p.elements, true⟩ o true := by
  rcases h with ⟨phrase, closed⟩ | _
  have hp : p.simplify = ⟨Phrase.coalesce p.elements, true⟩ := by
    unfold Phrase.simplify
    split_ifs with hp
    · obtain ⟨es, c⟩ := p
      obtain rfl : c = true := hp
      rw [Phrase.coalesce, merge_of_settled (phrase rfl)]
    · rfl
  cases b with
  | false => rw [simplify, if_neg Bool.false_ne_true, hp]
  | true => rw [simplify, if_pos rfl, ← hp, Phrase.simplify, if_pos (closed rfl)]

theorem simplify_composite {alts : List (List Sentence)} {o : Occurrence} {b : Bool}
    (h : (composite alts o b).Tidy) :
    (composite alts o b).simplify
      = collapse (flatten ((alts.map (List.map simplify)).map compact)) o := by
  rcases h with _ | ⟨-, closed⟩
  cases b with
  | false =>
    rw [simplify, if_neg Bool.false_ne_true, simplifyAlternatives_eq, List.map_map]
    rfl
  | true =>
    obtain ⟨-, rows, -⟩ := normal_composite.1 (closed rfl)
    have hs : alts.map (List.map simplify) = alts :=
      map_eq_self fun ss hss => map_eq_self fun s hs => ((rows ss hss).members s hs).simplify
    rw [hs, collapse_flatten_of_normal (closed rfl), simplify, if_pos rfl]

/-- Simplification of a sentence goes part by part. -/
theorem fold_normalForms : ∀ {s : Sentence}, s.Tidy →
    (s.fold normalForms).sentence = s.simplify := by
  refine @induction _ (fun p o b h => ?_) fun alts o b ih h => ?_
  · have hf : ((basic p o b).fold normalForms).sentence
        = collapse [[(NormalForm.phrase (p.elements.map NormalForm.element)).sentence]] o := by
      rw [fold_basic]
      rfl
    rw [hf, phrase_elements, collapse_of_once rfl, simplify_basic h]
    rfl
  · have hf : ((composite alts o b).fold normalForms).sentence
        = collapse [[oneOf ((alts.map (foldRow normalForms)).map NormalForm.sentence)]] o := by
      rw [fold_composite]
      rfl
    have hr : (alts.map (foldRow normalForms)).map NormalForm.sentence
        = (alts.map (List.map simplify)).map inRow := by
      rw [List.map_map, List.map_map]
      refine List.map_congr_left fun ss hss => ?_
      show inRow ((ss.map (fold normalForms)).map NormalForm.sentence) = inRow (ss.map simplify)
      rw [List.map_map]
      exact congrArg inRow (List.map_congr_left fun s hs => ih ss hss s hs (h.member ss hss s hs))
    rw [hf, hr, ← collapse_flatten_compact, simplify_composite h]

theorem least_phrase (es : List Element) :
    (NormalForm.phrase (es.map NormalForm.element)).least = Element.totalLeast es := by
  cases es with
  | nil => rfl
  | cons e es =>
    show (((e :: es).map NormalForm.element).map NormalForm.least).sum = _
    rw [List.map_map]
    rfl

theorem fold_least : ∀ s : Sentence, (s.fold normalForms).least = s.totalLeast := by
  refine induction (fun p o b => ?_) fun alts o b ih => ?_
  · rw [fold_basic, totalLeast, elements_basic]
    exact least_phrase p.elements
  · have hr : (alts.map (foldRow normalForms)).map NormalForm.least = alts.map rowLeast := by
      rw [List.map_map]
      refine List.map_congr_left fun ss hss => ?_
      show ((ss.map (fold normalForms)).map NormalForm.least).sum = (ss.map totalLeast).sum
      rw [List.map_map]
      exact congrArg List.sum (List.map_congr_left fun s hs => ih ss hss s hs)
    rw [totalLeast_composite, ← hr, fold_composite]
    rfl

end CorpusQuery.Sentence
