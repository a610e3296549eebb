import CorpusQuery.Proofs.Outcomes

/-!
# The standard dialect is lawful

Each reader of a part of a pattern is steady: escapes, classes, counts, the signs after an opening
parenthesis, word boundaries, and so whatever is read at once (`taking_sign`).
No part has a parenthesis for a sign that ends it, except a list of flags, and that one ends there.
So what is shown for any lawful dialect holds of the one that is used (`Dialect.standard_lawful`).
-/

namespace CorpusQuery.Pattern

open Reader (Steady Taking)

variable {f : Flags}

/-! ## Escapes -/

theorem steady_next? : Steady f.next? := by
  have h : Taking fun cs : List Char => cs.head? >>= fun c => some (c, cs.tail) :=
    ⟨rfl, fun c => .done c⟩
  exact h.steady.after f.skips

theorem steady_hexDigits (n : Nat) : Steady (hexDigits f n) := by
  induction n with
  | zero => exact .done []
  | succ n ih => exact steady_next?.bind fun c => ih.bind fun ds => .done _

theorem steady_hexEscape (n : Nat) : Steady (hexEscape f n) := by
  refine ((steady_eat (by decide)).after f.skips).bind fun braces => ?_
  cases braces
  · exact (steady_hexDigits n).bind fun ds => .opt fun c => .done _
  · exact steady_untilBrace.bind fun ds => .opt fun c => .done _

theorem steady_propertyEscape (negated : Bool) : Steady (propertyEscape f negated) := by
  refine steady_next?.bind fun c => ?_
  by_cases hc : c = '{'
  · subst hc
    exact steady_untilBrace.bind fun name => .opt fun s => .done _
  · simp only [hc, if_false]
    exact .opt fun _ => .opt fun s => .done _

theorem taking_escape : Taking (escape f) where
  nil := rfl
  cons c := by
    unfold escape
    dsimp only
    split_ifs
    · exact steady_hexEscape 2
    · exact steady_hexEscape 4
    · exact steady_hexEscape 8
    · exact steady_propertyEscape _
    · exact .done _
    · exact .ofOption _

/-! ## Classes -/

theorem steady_openClass : Steady (openClass f) := by
  refine ((steady_eat (by decide)).after f.skips).bind fun negated => .opt fun _ => ?_
  refine (steady_span rfl).bind fun hyphens => ?_
  dsimp only
  split_ifs
  · exact .done _
  · refine (steady_eat (by decide)).bind fun bracket => ?_
    cases bracket
    · exact .done _
    · exact .done _

theorem taking_classAtom : Taking (classAtom f) where
  nil := rfl
  cons c := by
    unfold classAtom
    dsimp only
    split_ifs
    · exact taking_escape.steady
    · exact .done _

theorem peekPastBlank_append (b : Bool) (cs t : List Char) :
    peekPastBlank b (cs ++ ')' :: t) = (peekPastBlank b cs).or (some ')') := by
  fun_induction peekPastBlank b cs with
  | case1 b => cases b <;> rfl
  | case2 b c cs hc ih => rw [List.cons_append, peekPastBlank, if_pos hc, ih]
  | case3 b c cs hc hb ih => rw [List.cons_append, peekPastBlank, if_neg hc, if_pos hb, ih]
  | case4 b c cs hc hb => rw [List.cons_append, peekPastBlank, if_neg hc, if_neg hb]; rfl

theorem peek_append (cs t : List Char) : peek f (cs ++ ')' :: t) = (peek f cs).or (some ')') := by
  unfold peek
  split_ifs
  · exact peekPastBlank_append false cs t
  · cases cs <;> rfl

theorem peek_append_iff (cs t : List Char) {c : Char} (hc : c ≠ ')') :
    peek f (cs ++ ')' :: t) = some c ↔ peek f cs = some c := by
  rw [peek_append]
  cases peek f cs with
  | none => simpa using hc.symm
  | some d => rfl

theorem rangeSign_of_ne {cs : List Char} (h : cs.head? ≠ some '-') :
    rangeSign f cs = some (false, cs) := by
  unfold rangeSign
  split
  · exact absurd rfl h
  · rfl

theorem steady_rangeSign : Steady (rangeSign f) where
  leaves {cs a rest} h := by
    unfold rangeSign at h
    split at h
    · split_ifs at h <;> cases h
      · exact List.suffix_refl _
      · exact List.suffix_cons _ _
    · cases h
      exact List.suffix_refl _
  keeps cs := by
    by_cases hcs : cs.head? = some '-'
    · obtain ⟨cs, rfl⟩ := List.head?_eq_some_iff.1 hcs
      simp only [List.cons_append, rangeSign,
        peek_append_iff cs _ (show ']' ≠ ')' by decide),
        peek_append_iff cs _ (show '-' ≠ ')' by decide)]
      split_ifs
      · exact .inStep rfl fun _ => rfl
      · exact .inStep rfl fun _ => rfl
    · refine .inStep (rangeSign_of_ne hcs) fun t => rangeSign_of_ne ?_
      cases cs with
      | nil => simp
      | cons c cs => exact hcs

theorem taking_classItem : Taking (classItem f) := by
  refine taking_classAtom.bind fun a => .opt fun _ => ?_
  refine (steady_rangeSign.after f.skips).bind fun isRange => ?_
  cases isRange
  · exact .done _
  · exact (taking_classAtom.steady.after f.skips).bind fun b => .opt fun _ => .opt fun s => .done _

theorem paren_notMem_of_asciiSet? {s : String} {set : Charset} (h : asciiSet? s = some set) :
    ')' ∉ s.toList := by
  unfold asciiSet? at h
  split at h <;> first | decide | cases h

theorem asciiName?_append (cs t : List Char) :
    asciiName? (cs ++ ')' :: t) = (asciiName? cs).map (Prod.map id (· ++ ')' :: t)) := by
  unfold asciiName?
  rcases h : cs.dropWhile (· != ':') with _ | ⟨c, rest⟩
  · -- with more text there may be a colon, but then the name has a parenthesis in it
    have hname : asciiSet? (String.ofList ((cs ++ ')' :: t).takeWhile (· != ':'))) = none := by
      rw [(split_of_dropWhile_nil h _).1]
      refine Option.eq_none_iff_forall_not_mem.2 fun s hs => ?_
      exact paren_notMem_of_asciiSet? hs (by simp)
    rw [hname]
    cases asciiSet? (String.ofList (cs.takeWhile (· != ':'))) <;> rfl
  · obtain ⟨hc, ht⟩ := split_of_dropWhile_cons h
    obtain rfl : c = ':' := by simpa using hc
    rw [(ht _).1, (ht _).2]
    cases asciiSet? (String.ofList (cs.takeWhile (· != ':'))) with
    | none => rfl
    | some s =>
      show (eat ']' (rest ++ ')' :: t) >>= _) = Option.map _ (eat ']' rest >>= _)
      rw [eat_append (by decide)]
      rcases eat ']' rest with _ | ⟨_ | _, rest⟩ <;> rfl

theorem asciiClass?_append (cs t : List Char) :
    asciiClass? (cs ++ ')' :: t) = (asciiClass? cs).map (Prod.map id (· ++ ')' :: t)) := by
  unfold asciiClass?
  rw [eat_append (by decide)]
  rcases eat ':' cs with _ | ⟨_ | _, cs⟩
  · rfl
  · rfl
  show (eat '^' (cs ++ ')' :: t) >>= _) = Option.map _ (eat '^' cs >>= _)
  rw [eat_append (by decide)]
  rcases eat '^' cs with _ | ⟨negated, cs⟩
  · rfl
  show (asciiName? (cs ++ ')' :: t) >>= _) = Option.map _ (asciiName? cs >>= _)
  rw [asciiName?_append]
  cases asciiName? cs <;> rfl

theorem asciiClass?_suffix {cs rest : List Char} {a : Bool × Charset}
    (h : asciiClass? cs = some (a, rest)) : rest <:+ cs := by
  obtain ⟨⟨_, cs₁⟩, h₁, h⟩ := Option.bind_eq_some_iff.1 h
  obtain ⟨_, -, h⟩ := Option.bind_eq_some_iff.1 h
  obtain ⟨⟨_, cs₂⟩, h₂, h⟩ := Option.bind_eq_some_iff.1 h
  obtain ⟨⟨s, cs₃⟩, h₃, h⟩ := Option.bind_eq_some_iff.1 h
  cases h
  obtain ⟨_, -, h₃⟩ := Option.bind_eq_some_iff.1 h₃
  obtain ⟨⟨_, cs₄⟩, h₄, h₃⟩ := Option.bind_eq_some_iff.1 h₃
  obtain ⟨⟨_, cs₅⟩, h₅, h₃⟩ := Option.bind_eq_some_iff.1 h₃
  obtain ⟨_, -, h₃⟩ := Option.bind_eq_some_iff.1 h₃
  cases h₃
  have hname : rest <:+ cs₂ :=
    (eat_suffix h₅).trans ((eat_suffix h₄).trans (List.dropWhile_suffix _))
  exact hname.trans ((eat_suffix h₂).trans (eat_suffix h₁))

theorem steady_openWithin (frame : ClassFrame) (outer : List ClassFrame) :
    Steady (openWithin f frame outer) := by
  have hnamed (negated : Bool) (s : Charset) : Steady fun cs => (do
      guard (f.unicode || !negated)
      let s := if negated then (f.close s).complement else f.close s
      return (ClassProgress.within (frame.add 0 s) outer, cs)) := .opt fun _ => .done _
  have hinner : Steady fun cs => openClass f cs >>= fun p =>
      some (ClassProgress.within p.1 (frame :: outer), p.2) :=
    steady_openClass.bind fun inner => .done (ClassProgress.within inner (frame :: outer))
  refine ⟨fun {cs p rest} h => ?_, fun cs => ?_⟩
  · unfold openWithin at h
    rcases hcs : asciiClass? cs with _ | ⟨⟨negated, s⟩, cs'⟩
    · rw [hcs] at h
      exact hinner.leaves h
    · rw [hcs] at h
      exact ((hnamed negated s).leaves h).trans (asciiClass?_suffix hcs)
  · simp only [openWithin, asciiClass?_append]
    rcases asciiClass? cs with _ | ⟨⟨negated, s⟩, cs'⟩
    · exact hinner.keeps cs
    · exact (hnamed negated s).keeps cs'

theorem taking_classNext (frame : ClassFrame) (outer : List ClassFrame) :
    Taking (classNext f frame outer) where
  nil := rfl
  cons c := by
    have hitem : Steady fun cs => classItem f (c :: cs) >>= fun p =>
        some (ClassProgress.within (frame.add 0 p.1) outer, p.2) :=
      (taking_classItem.cons c).bind fun s => .done (ClassProgress.within (frame.add 0 s) outer)
    unfold classNext
    dsimp only
    by_cases hopen : c = '['
    · subst hopen
      exact steady_openWithin frame outer
    by_cases hclose : c = ']'
    · subst hclose
      simp only [hopen, if_true, if_false]
      cases outer
      · exact .done _
      · exact .done _
    simp only [hopen, hclose, if_false]
    cases hop : operatorOf? c with
    | none => exact hitem
    | some op =>
      have hc : c ≠ ')' := by
        rintro rfl
        cases hop
      refine (steady_eat hc).bind fun twice => ?_
      cases twice
      · exact hitem
      · exact .done _

theorem classNext_length {frame : ClassFrame} {outer : List ClassFrame} {cs rest : List Char}
    {p : ClassProgress} (h : classNext f frame outer (f.skip cs) = some (p, rest)) :
    rest.length < cs.length :=
  ((taking_classNext frame outer).length_lt h).trans_le (f.length_skip_le cs)

/-- More steps than characters make no difference. -/
theorem classRest_of_length_lt {n m : Nat} {frame : ClassFrame} {outer : List ClassFrame}
    {cs : List Char} (hn : cs.length < n) (hm : cs.length < m) :
    classRest f n frame outer cs = classRest f m frame outer cs := by
  induction n generalizing m frame outer cs with
  | zero => omega
  | succ n ih =>
    obtain _ | m := m
    · omega
    · refine Option.bind_congr fun ⟨p, rest⟩ h => ?_
      have := classNext_length h
      cases p with
      | done => rfl
      | within frame outer => exact ih (by omega) (by omega)

/-- Reads a class to its end in as many steps as it takes. -/
def classToEnd (f : Flags) (frame : ClassFrame) (outer : List ClassFrame) (cs : List Char) :
    Option ((Nat × Charset) × List Char) :=
  classRest f (cs.length + 1) frame outer cs

/-- Reads on after an item or a sign of a class. -/
def ClassProgress.toEnd (f : Flags) : ClassProgress → Reader (Nat × Charset)
  | done h s, cs => some ((h, s), cs)
  | within frame outer, cs => classToEnd f frame outer cs

theorem classToEnd_eq_bind (frame : ClassFrame) (outer : List ClassFrame) (cs : List Char) :
    classToEnd f frame outer cs =
      classNext f frame outer (f.skip cs) >>= fun p => p.1.toEnd f p.2 := by
  refine Option.bind_congr fun ⟨p, rest⟩ h => ?_
  cases p with
  | done => rfl
  | within frame outer => exact classRest_of_length_lt (classNext_length h) (Nat.lt_succ_self _)

theorem steady_classToEnd (frame : ClassFrame) (outer : List ClassFrame) :
    Steady (classToEnd f frame outer) := by
  have hnext (frame : ClassFrame) (outer : List ClassFrame) :=
    (taking_classNext (f := f) frame outer).steady.after f.skips
  have hleaves {cs rest : List Char} {a : Nat × Charset} {frame : ClassFrame}
      {outer : List ClassFrame} (h : classToEnd f frame outer cs = some (a, rest)) :
      rest <:+ cs := by
    induction hn : cs.length using Nat.strongRecOn generalizing cs frame outer with
    | ind n ih =>
    rw [classToEnd_eq_bind] at h
    obtain ⟨⟨p, cs'⟩, hp, h⟩ := Option.bind_eq_some_iff.1 h
    refine List.IsSuffix.trans ?_ ((hnext frame outer).leaves hp)
    cases p with
    | done =>
      cases h
      exact List.suffix_refl _
    | within frame outer => exact ih _ (hn ▸ classNext_length hp) h rfl
  refine ⟨hleaves, fun cs => ?_⟩
  induction hn : cs.length using Nat.strongRecOn generalizing cs frame outer with
  | ind n ih =>
  simp only [classToEnd_eq_bind]
  refine ((hnext frame outer).keeps cs).bind (fun p cs a rest h => ?_) fun p rest hp => ?_
  · cases p with
    | done =>
      cases h
      exact List.suffix_refl _
    | within => exact hleaves h
  · cases p with
    | done => exact .inStep rfl fun _ => rfl
    | within frame outer => exact ih _ (hn ▸ classNext_length hp) frame outer rest rfl

theorem steady_bracketed : Steady (bracketed f) :=
  steady_openClass.bind fun frame => steady_classToEnd frame []

/-! ## Counts -/

theorem Flags.skips_skipBlank (f : Flags) : Skips f.skipBlank := by
  unfold Flags.skipBlank
  split_ifs
  · exact skips_dropBlank
  · exact skips_dropWhile

theorem steady_count : Steady (count f) := by
  refine ((steady_span rfl).after f.skips_skipBlank).bind fun ds => .opt fun _ => ?_
  exact (Steady.done _).after f.skips_skipBlank

theorem steady_countRange : Steady (countRange f) := by
  refine steady_count.bind fun lo => (steady_eat (by decide)).bind fun comma => ?_
  refine ((steady_eat (by decide)).after f.skips).bind fun closed => ?_
  cases closed
  · refine .opt fun _ => steady_count.bind fun hi => (steady_eat (by decide)).bind fun _ => ?_
    exact .opt fun _ => .done _
  · exact .done _

/-! ## Groups -/

theorem steady_groupName : Steady groupName := by
  have hrest (name : List Char) : Steady fun cs => (do
      guard (isGroupName name)
      let p ← eat '>' cs
      guard p.1
      return (name, p.2)) :=
    .opt fun _ => (steady_eat (by decide)).bind fun closed =>
      .opt (o := guard (closed = true)) fun _ => .done name
  refine ⟨fun {cs _ _} h => ?_, fun cs => ?_⟩
  · exact ((hrest _).leaves h).trans (List.dropWhile_suffix _)
  · rcases h : cs.dropWhile (· != '>') with _ | ⟨c, rest⟩
    · refine .failed ?_ fun {t name rest} hr => ?_
      · rw [groupName, h]
        cases isGroupName (cs.takeWhile (· != '>')) <;> rfl
      · have hdrop : (cs ++ ')' :: t).dropWhile (· != '>') = t.dropWhile (· != '>') :=
          (split_of_dropWhile_nil h _).2
        exact (hdrop ▸ (hrest _).leaves hr).trans (List.dropWhile_suffix _)
    · obtain ⟨-, ht⟩ := split_of_dropWhile_cons h
      unfold groupName
      simp only [(ht _).1, (ht _).2, h]
      exact (hrest _).keeps (c :: rest)

theorem steady_flagItems : Steady (flagItems f) := by
  have hclosed (items : List Char) (g : Flags) : Steady fun cs => (do
      let p ← eat ')' cs
      guard (p.1 ∧ items ≠ [])
      return (Opening.setting g, p.2)) := by
    refine Taking.steady ⟨by simp [eat], fun c => ?_⟩
    by_cases hc : c = ')'
    · simp only [eat, hc, if_true]
      exact .opt (o := guard (true = true ∧ items ≠ [])) fun _ => .done _
    · have hfail : (fun cs => do
          let p ← eat ')' (c :: cs)
          guard (p.1 ∧ items ≠ [])
          return (Opening.setting g, p.2)) = fun _ => none := by
        funext cs
        simp [eat, hc]
      exact hfail ▸ .fail
  have hrest (items : List Char) : Steady fun cs => (do
      let g ← f.change items
      let p ← eat ':' cs
      if p.1 then
        return (Opening.group g false, p.2)
      let p ← eat ')' p.2
      guard (p.1 ∧ items ≠ [])
      return (.setting g, p.2)) := by
    refine .opt fun g => (steady_eat (by decide)).bind fun colon => ?_
    cases colon
    · exact hclosed items g
    · exact .done (Opening.group g false)
  refine ⟨fun {cs _ _} h => ?_, fun cs => ?_⟩
  · exact ((hrest _).leaves h).trans (List.dropWhile_suffix _)
  · have hsplit (t : List Char) := split_append_paren (p := (!endsFlags ·)) rfl cs t
    simp only [flagItems, (hsplit _).1, (hsplit _).2]
    exact (hrest _).keeps _

theorem steady_opening : Steady (opening f) := by
  refine ((steady_eat (by decide)).after f.skips).bind fun special => ?_
  cases special
  · exact .done _
  refine (steady_eat (by decide)).bind fun letter => (steady_eat (by decide)).bind fun angle => ?_
  cases angle
  · exact .opt fun _ => steady_flagItems
  · exact steady_groupName.bind fun name => .done _

/-! ## Signs -/

theorem steady_repetition (p : Option Piece) (min : Nat) (max : Option Nat) :
    Steady (repetition p min max) :=
  (steady_eat (by decide)).bind fun _ => .done _

theorem steady_counted (p : Option Piece) : Steady (counted f p) :=
  steady_countRange.bind fun (lo, hi) => (steady_repetition p lo hi).after f.skips

theorem steady_boundaryBraces : Steady (boundaryBraces f) := by
  refine .ite_head rfl ?_ (steady_counted _)
  refine (steady_span rfl).bind fun name => (steady_eat (by decide)).bind fun closed => ?_
  exact .opt fun _ => .opt fun b => .done _

theorem steady_boundaryRest : Steady (boundaryRest f) := by
  refine (steady_eat (by decide)).bind fun braces => ?_
  cases braces
  · exact .done _
  · exact steady_boundaryBraces.after f.skips

theorem taking_sign : Taking (sign f) where
  nil := rfl
  cons c := by
    unfold sign
    dsimp only
    split_ifs
    · exact steady_opening.bind fun o => .done (Sign.opening o)
    · exact .done _
    · exact .done _
    · exact steady_bracketed.bind fun p => .done (Sign.part ⟨p.1, .ofSet f.unicode p.2⟩)
    · exact steady_counted none
    · refine (steady_eat (by decide)).bind fun boundary => ?_
      cases boundary
      · exact taking_escape.steady.bind fun a => .opt (o := f.part? a) fun p => .done p
      · exact steady_boundaryRest
    · cases signCounts? c with
      | none => exact .ofOption _
      | some counts => exact steady_repetition none counts.1 counts.2

/-! ## Parentheses -/

theorem counted_ne_closing {p : Option Piece} {cs rest : List Char} :
    counted f p cs ≠ some (.closing, rest) := by
  simp [counted, repetition, Option.bind_eq_some_iff]

theorem boundaryRest_ne_closing {cs rest : List Char} :
    boundaryRest f cs ≠ some (.closing, rest) := by
  intro h
  obtain ⟨⟨braces, cs'⟩, -, h⟩ := Option.bind_eq_some_iff.1 h
  cases braces with
  | false => cases h
  | true =>
    simp only [if_true, boundaryBraces] at h
    split_ifs at h
    · simp [Option.bind_eq_some_iff] at h
    · exact counted_ne_closing h

theorem part?_ne_closing {a : Atom} : f.part? a ≠ some .closing := by
  simp [Flags.part?, Option.bind_eq_some_iff]

/-- Nothing but a closing parenthesis is read as one. -/
theorem eq_paren_of_sign {c : Char} {cs rest : List Char}
    (h : sign f (c :: cs) = some (.closing, rest)) : c = ')' := by
  by_contra hc
  unfold sign at h
  dsimp only at h
  split_ifs at h
  · simp [Option.bind_eq_some_iff] at h
  · simp at h
  · simp [Option.bind_eq_some_iff] at h
  · exact counted_ne_closing h
  · obtain ⟨⟨boundary, cs'⟩, -, h⟩ := Option.bind_eq_some_iff.1 h
    cases boundary with
    | true => exact boundaryRest_ne_closing h
    | false =>
      obtain ⟨⟨a, cs''⟩, -, h⟩ := Option.bind_eq_some_iff.1 h
      obtain ⟨p, hp, h⟩ := Option.bind_eq_some_iff.1 h
      cases h
      exact part?_ne_closing hp
  · split at h
    · simp [repetition, Option.bind_eq_some_iff] at h
    · obtain ⟨p, hp, h⟩ := Option.map_eq_some_iff.1 h
      cases h
      exact part?_ne_closing hp

theorem Dialect.standard_lawful : Dialect.standard.Lawful where
  taking _ := taking_sign
  paren _ _ := rfl
  eq_paren := eq_paren_of_sign
  group _ := rfl
  start _ := rfl
  stop _ := rfl

end CorpusQuery.Pattern
