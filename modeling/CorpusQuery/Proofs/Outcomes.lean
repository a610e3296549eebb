import Mathlib.Data.Option.Basic
import CorpusQuery.Pattern.Basic
import CorpusQuery.Proofs.Readers

/-!
# How the reading of a pattern goes

What becomes of the reading of a text when the text stands in a group of a longer one, with a
closing parenthesis right after it. There are four cases (`Dialect.Lawful.outcome`): the text is
read to its end, and the parenthesis closes the group around it; it ends in a comment, to which the
parenthesis belongs; it has a parenthesis of its own that closes the group around it; or it fails.
Each step of the reading is the same within the group and outside (`Dialect.Steps`), so the cases of
a text come from those of its rest. Nothing is used of a dialect but a few laws of its signs.
-/

namespace CorpusQuery.Pattern

open Reader (Taking)

namespace Dialect

/-- The laws of signs that all this rests on. -/
structure Lawful (d : Dialect) : Prop where
  /-- A sign takes a character at least. With a parenthesis and more to follow it is read the same,
  unless it is cut short or ends in a comment. -/
  taking f : Taking (d.sign f)
  /-- A parenthesis closes a group, -/
  paren f cs : d.sign f (')' :: cs) = some (.closing, cs)
  /-- and nothing else does. -/
  eq_paren {f c cs rest} : d.sign f (c :: cs) = some (.closing, rest) → c = ')'
  /-- `(?:` opens a group that notes nothing and sets no flags. -/
  group cs : d.sign {} ('(' :: '?' :: ':' :: cs) = some (.opening (.group {} false), cs)
  /-- `^` stands for the start of the text, -/
  start cs : d.sign {} ('^' :: cs) = some (.part (.ofAtom {} (.look .textStart)), cs)
  /-- and `$` for its end. -/
  stop cs : d.sign {} ('$' :: cs) = some (.part (.ofAtom {} (.look .textEnd)), cs)

variable {d : Dialect} {r r' : Reading} {s : Sign} {cs rest : List Char}

/-! ## Reading to the end -/

theorem Lawful.length_of_sign (hd : d.Lawful) {f : Flags}
    (h : d.sign f (f.skip cs) = some (s, rest)) : rest.length < cs.length :=
  ((hd.taking f).length_lt h).trans_le (f.length_skip_le cs)

theorem Lawful.read_of_length_lt (hd : d.Lawful) {n m : Nat} (hn : cs.length < n)
    (hm : cs.length < m) : d.read n r cs = d.read m r cs := by
  induction n generalizing m r cs with
  | zero => omega
  | succ n ih =>
    obtain _ | m := m
    · omega
    simp only [read]
    cases hcs : r.flags.skip cs with
    | nil => rfl
    | cons c cs' =>
      refine Option.bind_congr fun ⟨s, rest⟩ h => Option.bind_congr fun r' _ => ?_
      have : rest.length < cs.length := hd.length_of_sign (hcs ▸ h)
      exact ih (by simp only; omega) (by simp only; omega)

theorem ending?_of_skip_nil (h : r.flags.skip cs = []) : d.ending? r cs = some r := by
  rw [ending?, read, h]

theorem Lawful.ending?_of_skip_cons (hd : d.Lawful) {c : Char} (h : r.flags.skip cs = c :: rest) :
    d.ending? r cs =
      d.sign r.flags (c :: rest) >>= fun p => r.after? p.1 >>= (d.ending? · p.2) := by
  rw [ending?, read, h]
  refine Option.bind_congr fun ⟨s, rest'⟩ hs => Option.bind_congr fun r' _ => ?_
  exact hd.read_of_length_lt (hd.length_of_sign (h ▸ hs)) (Nat.lt_succ_self _)

theorem Lawful.ending?_of_sign (hd : d.Lawful)
    (h : d.sign r.flags (r.flags.skip cs) = some (s, rest)) :
    d.ending? r cs = r.after? s >>= (d.ending? · rest) := by
  cases hcs : r.flags.skip cs with
  | nil =>
    rw [hcs, (hd.taking _).nil] at h
    cases h
  | cons c rest' =>
    rw [hcs] at h
    rw [hd.ending?_of_skip_cons hcs, h]
    rfl

theorem toEnd_of_skip_nil (h : r.flags.skip cs = []) : d.toEnd r cs = r.whole? := by
  rw [toEnd, ending?_of_skip_nil h]
  rfl

theorem toEnd_nil (r : Reading) : d.toEnd r [] = r.whole? :=
  toEnd_of_skip_nil (skip_nil _)

theorem Lawful.toEnd_of_skip_cons (hd : d.Lawful) {c : Char} (h : r.flags.skip cs = c :: rest) :
    d.toEnd r cs = d.sign r.flags (c :: rest) >>= fun p => r.after? p.1 >>= (d.toEnd · p.2) := by
  simp only [toEnd, hd.ending?_of_skip_cons h, Option.bind_eq_bind, Option.bind_assoc]

theorem Lawful.toEnd_of_sign (hd : d.Lawful)
    (h : d.sign r.flags (r.flags.skip cs) = some (s, rest)) :
    d.toEnd r cs = r.after? s >>= (d.toEnd · rest) := by
  simp only [toEnd, hd.ending?_of_sign h, Option.bind_eq_bind, Option.bind_assoc]

theorem Lawful.toEnd_skip (hd : d.Lawful) (r : Reading) (cs : List Char) :
    d.toEnd r (r.flags.skip cs) = d.toEnd r cs := by
  cases h : r.flags.skip cs with
  | nil => rw [toEnd_of_skip_nil h, toEnd_nil]
  | cons c rest =>
    have hskip : r.flags.skip (c :: rest) = c :: rest := by rw [← h, skip_skip]
    rw [hd.toEnd_of_skip_cons h, hd.toEnd_of_skip_cons hskip]

theorem Lawful.toEnd_paren (hd : d.Lawful) (r : Reading) (t : List Char) :
    d.toEnd r (')' :: t) = r.close? >>= (d.toEnd · t) :=
  hd.toEnd_of_sign (by rw [skip_paren, hd.paren])

end Dialect

/-! ## Within a group -/

namespace Reading

variable {r r' : Reading} {s : Sign} {l : Level}

/-- The reading within one more group, of the level `l`, around all others. -/
def under (l : Level) (r : Reading) : Reading :=
  { r with outer := r.outer ++ [l] }

theorem under_begin? (o : Opening) : (r.under l).begin? o = (r.begin? o).map (under l) := by
  cases o with
  | group | setting => rfl
  | named f name =>
    by_cases h : name ∈ r.names <;> simp [begin?, under, h]

theorem under_close? (h : r.outer ≠ []) : (r.under l).close? = r.close?.map (under l) := by
  obtain ⟨up, outer, ho⟩ := List.exists_cons_of_ne_nil h
  simp [close?, under, ho]

theorem under_after? (h : s = .closing → r.outer ≠ []) :
    (r.under l).after? s = (r.after? s).map (under l) := by
  cases s with
  | opening o => exact under_begin? o
  | closing => exact under_close? (h rfl)
  | bar | part => rfl
  | repetition p min max lazily =>
    simp only [after?, under]
    cases (if p.isSome then r.level.add p else r.level).repeated min max lazily <;> rfl

theorem whole?_of_outer (h : r.outer = []) : r.whole? = some r.level.whole := by
  simp [whole?, h]

theorem whole?_eq_none (h : r.outer ≠ []) : r.whole? = none := by
  simp [whole?, h]

theorem whole?_under : (r.under l).whole? = none :=
  whole?_eq_none (by simp [under])

/-! ## The outermost group -/

/-- Whether it is noted what the outermost group matches. -/
def noted (r : Reading) : Bool :=
  ((r.level :: r.outer).getLast (List.cons_ne_nil _ _)).captures

theorem noted_of_level {names : List (List Char)} {level level' : Level} {outer : List Level}
    (h : level'.captures = level.captures) :
    (Reading.mk names level' outer).noted = (Reading.mk names level outer).noted := by
  cases outer with
  | nil => exact h
  | cons up outer => rfl

theorem noted_of_repeated {level level' : Level} {min : Nat} {max : Option Nat} {lazily : Bool}
    (h : level.repeated min max lazily = some level') : level'.captures = level.captures := by
  unfold Level.repeated at h
  split at h <;> cases h
  rfl

theorem noted_of_after? (h : r.after? s = some r') : r'.noted = r.noted := by
  cases s with
  | opening o =>
    cases o with
    | group =>
      cases h
      rfl
    | setting =>
      cases h
      exact noted_of_level rfl
    | named f name =>
      simp only [after?, begin?] at h
      split_ifs at h
      cases h
      rfl
  | closing =>
    obtain ⟨names, level, _ | ⟨up, outer⟩⟩ := r
    · cases h
    · cases h
      exact noted_of_level rfl
  | bar | part =>
    cases h
    exact noted_of_level rfl
  | repetition p min max lazily =>
    obtain ⟨level, hlevel, h⟩ := Option.bind_eq_some_iff.1 h
    cases h
    refine noted_of_level ((noted_of_repeated hlevel).trans ?_)
    split_ifs <;> rfl

end Reading

namespace Dialect

open Reading

variable {d : Dialect} {r r' e : Reading} {s : Sign} {l : Level} {cs rest : List Char}

theorem Lawful.toEnd_under_of_sign (hd : d.Lawful)
    (h : d.sign r.flags (r.flags.skip cs) = some (s, rest))
    (hclosing : s = .closing → r.outer ≠ []) :
    d.toEnd (r.under l) cs = r.after? s >>= fun r' => d.toEnd (r'.under l) rest := by
  rw [hd.toEnd_of_sign (r := r.under l) h, under_after? hclosing]
  cases r.after? s <;> rfl

/-- Without a parenthesis a reading does not come out of its groups. -/
theorem Lawful.toEnd_under_of_notMem (hd : d.Lawful) (h : ')' ∉ cs) :
    d.toEnd (r.under l) cs = none := by
  induction hn : cs.length using Nat.strongRecOn generalizing r cs with
  | ind n ih =>
  subst hn
  cases hcs : (r.under l).flags.skip cs with
  | nil => rw [toEnd_of_skip_nil hcs, whole?_under]
  | cons c rest =>
    have hsuffix : c :: rest <:+ cs := hcs ▸ (r.under l).flags.skips.suffix cs
    rw [hd.toEnd_of_skip_cons hcs]
    refine Option.bind_eq_none_iff.2 fun ⟨s, rest'⟩ hs => ?_
    have hclosing : s ≠ .closing := by
      rintro rfl
      exact h (hsuffix.subset (by simp [hd.eq_paren hs]))
    rw [under_after? (absurd · hclosing)]
    refine Option.bind_eq_none_iff.2 fun r' hr' => ?_
    obtain ⟨r', -, rfl⟩ := Option.map_eq_some_iff.1 hr'
    refine ih _ (hd.length_of_sign (hcs ▸ hs)) (fun ht => h ?_) rfl
    exact (((hd.taking _).steady.leaves hs).trans hsuffix).subset ht

/-! ## Outcomes -/

/-- The text ends outside of groups and comments, and all that has been read by then is in `e`. -/
structure Ends (d : Dialect) (r : Reading) (cs : List Char) (e : Reading) : Prop where
  outer : e.outer = []
  noted : e.noted = r.noted
  ending : d.ending? r cs = some e
  stray : ∀ t, d.toEnd r (cs ++ ')' :: t) = none
  closes : ∀ l t, d.toEnd (r.under l) (cs ++ ')' :: t) =
    d.toEnd { e with level := l.add (some e.level.close) } t

theorem Ends.whole (h : d.Ends r cs e) : d.toEnd r cs = some e.level.whole := by
  rw [toEnd, h.ending]
  exact whole?_of_outer h.outer

/-- How the reading of a text goes, alone and within a group that is closed right after it. -/
inductive Outcome (d : Dialect) (r : Reading) (cs : List Char) : Prop
  /-- The text is read to its end. -/
  | ends {e : Reading} : d.Ends r cs e → Outcome d r cs
  /-- The text is read to its end, but it ends in a comment. -/
  | inComment {p : Piece} : d.toEnd r cs = some p →
      (∀ t, '\n' ∉ t → d.toEnd r (cs ++ ')' :: t) = some p) →
      (∀ l t, '\n' ∉ t → d.toEnd (r.under l) (cs ++ ')' :: t) = none) → Outcome d r cs
  /-- A parenthesis in the text closes no group of the text. -/
  | strays {u w : List Char} {e : Reading} : cs = u ++ ')' :: w → d.Ends r u e → Outcome d r cs
  /-- The text is not read to its end, and a parenthesis after it is of no help. -/
  | fails : d.toEnd r cs = none →
      (∀ l t, ')' ∉ t → d.toEnd (r.under l) (cs ++ ')' :: t) = none) → Outcome d r cs

/-- A step of the reading, which is the same with more to follow. -/
structure Steps (d : Dialect) (r : Reading) (cs : List Char) (r' : Reading) (rest : List Char) :
    Prop where
  noted : r'.noted = r.noted
  ending : d.ending? r cs = d.ending? r' rest
  followed : ∀ t, d.toEnd r (cs ++ ')' :: t) = d.toEnd r' (rest ++ ')' :: t)
  within : ∀ l t, d.toEnd (r.under l) (cs ++ ')' :: t) = d.toEnd (r'.under l) (rest ++ ')' :: t)

theorem Lawful.steps_of_sign (hd : d.Lawful)
    (hs : d.sign r.flags (r.flags.skip cs) = some (s, rest))
    (ht : ∀ t, d.sign r.flags (r.flags.skip (cs ++ ')' :: t)) = some (s, rest ++ ')' :: t))
    (hclosing : s = .closing → r.outer ≠ []) (hr : r.after? s = some r') :
    d.Steps r cs r' rest where
  noted := noted_of_after? hr
  ending := by rw [hd.ending?_of_sign hs, hr]; rfl
  followed t := by rw [hd.toEnd_of_sign (ht t), hr]; rfl
  within l t := by rw [hd.toEnd_under_of_sign (ht t) hclosing, hr]; rfl

theorem Steps.alone (h : d.Steps r cs r' rest) : d.toEnd r cs = d.toEnd r' rest := by
  rw [toEnd, toEnd, h.ending]

theorem Ends.of_steps (hr : d.Steps r cs r' rest) (h : d.Ends r' rest e) : d.Ends r cs e where
  outer := h.outer
  noted := h.noted.trans hr.noted
  ending := hr.ending.trans h.ending
  stray t := (hr.followed t).trans (h.stray t)
  closes l t := (hr.within l t).trans (h.closes l t)

/-- After blanks, outside of groups. -/
theorem Lawful.ends_of_blank (hd : d.Lawful) (ho : r.outer = []) (h : r.flags.skip cs = [])
    (ht : ∀ t, r.flags.skip (cs ++ ')' :: t) = ')' :: t) : d.Ends r cs r where
  outer := ho
  noted := rfl
  ending := ending?_of_skip_nil h
  stray t := by rw [← hd.toEnd_skip, ht, hd.toEnd_paren, close?, ho]; rfl
  closes l t := by
    have hflags : (r.under l).flags = r.flags := rfl
    rw [← hd.toEnd_skip, hflags, ht, hd.toEnd_paren, close?]
    simp [under, ho]

/-- A sign that is read with more to follow, and leaves the parenthesis, is read without. -/
theorem Lawful.sign_of_append (hd : d.Lawful) {f : Flags} {u v w : List Char}
    (h : d.sign f (f.skip (u ++ ')' :: w)) = some (s, v ++ ')' :: w)) :
    d.sign f (f.skip u) = some (s, v) ∧
      ∀ t, d.sign f (f.skip (u ++ ')' :: t)) = some (s, v ++ ')' :: t) := by
  have hlen : ¬ v ++ ')' :: w <:+ w := fun h => by
    have := h.length_le
    simp only [List.length_append, List.length_cons] at this
    omega
  cases ((hd.taking f).steady.after f.skips).keeps u with
  | @inStep s' rest hx hy =>
    have heq := (hy w).symm.trans h
    simp only [Option.some.injEq, Prod.mk.injEq, List.append_cancel_right_eq] at heq
    obtain ⟨rfl, rfl⟩ := heq
    exact ⟨hx, hy⟩
  | inComment _ _ hbeyond => exact absurd (hbeyond h) hlen
  | failed _ hbeyond => exact absurd (hbeyond h) hlen

namespace Lawful

variable (hd : d.Lawful)
include hd

theorem outcome_of_steps (hs : d.sign r.flags (r.flags.skip cs) = some (s, rest))
    (ht : ∀ t, d.sign r.flags (r.flags.skip (cs ++ ')' :: t)) = some (s, rest ++ ')' :: t))
    (hclosing : s = .closing → r.outer ≠ []) (hr : r.after? s = some r')
    (h : d.Outcome r' rest) : d.Outcome r cs := by
  have hsteps := hd.steps_of_sign hs ht hclosing hr
  cases h with
  | ends h => exact .ends (h.of_steps hsteps)
  | inComment halone hfollowed hwithin =>
    exact .inComment (hsteps.alone.trans halone)
      (fun t h => (hsteps.followed t).trans (hfollowed t h))
      fun l t h => (hsteps.within l t).trans (hwithin l t h)
  | @strays u w e hrest h =>
    obtain ⟨v, hv⟩ := ((hd.taking _).steady.leaves hs).trans (r.flags.skips.suffix cs)
    -- the stray parenthesis is one of `cs` too, after what the step has read
    rw [hrest, ← List.append_assoc] at hv
    rw [hrest, ← hv] at hs
    obtain ⟨hs, ht⟩ := hd.sign_of_append hs
    exact .strays hv.symm (h.of_steps (hd.steps_of_sign hs ht hclosing hr))
  | fails halone hwithin =>
    exact .fails (hsteps.alone.trans halone) fun l t h => (hsteps.within l t).trans (hwithin l t h)

theorem outcome_of_blank (h : r.flags.skip cs = []) : d.Outcome r cs := by
  by_cases ho : r.outer = []
  · rcases r.flags.skips.nil h with ht | ht
    · exact .ends (hd.ends_of_blank ho h ht)
    · have hskip {t : List Char} (hn : '\n' ∉ t) : r.flags.skip (cs ++ ')' :: t) = [] := by
        rw [ht, dropBlank_comment hn]
      refine .inComment (p := r.level.whole) ?_ (fun t hn => ?_) fun l t hn => ?_
      · rw [toEnd_of_skip_nil h, whole?_of_outer ho]
      · rw [toEnd_of_skip_nil (hskip hn), whole?_of_outer ho]
      · rw [toEnd_of_skip_nil (r := r.under l) (hskip hn), whole?_under]
  · refine .fails (by rw [toEnd_of_skip_nil h, whole?_eq_none ho]) fun l t hp => ?_
    have hflags : (r.under l).flags = r.flags := rfl
    rw [← hd.toEnd_skip, hflags]
    rcases r.flags.skips.nil h with ht | ht
    · rw [ht, hd.toEnd_paren, under_close? ho]
      refine Option.bind_eq_none_iff.2 fun r' hr' => ?_
      obtain ⟨r', -, rfl⟩ := Option.map_eq_some_iff.1 hr'
      exact hd.toEnd_under_of_notMem hp
    · rw [ht]
      exact hd.toEnd_under_of_notMem fun hmem => hp ((dropBlank_suffix true t).subset hmem)

/-- A text that cannot be read to its end fails within a group too, if whatever can be read with
more to follow reaches beyond the parenthesis. -/
theorem outcome_of_beyond {c : Char} (hcs : r.flags.skip cs = c :: rest)
    (hstray : c = ')' → r.outer ≠ []) (hnone : d.toEnd r cs = none)
    (hbeyond : ∀ {t s rest'}, d.sign r.flags (c :: (rest ++ ')' :: t)) = some (s, rest') →
      rest' <:+ t) : d.Outcome r cs := by
  refine .fails hnone fun l t hp => ?_
  have ht : r.flags.skip (cs ++ ')' :: t) = c :: (rest ++ ')' :: t) := r.flags.skips.append hcs _
  cases hs : d.sign r.flags (c :: (rest ++ ')' :: t)) with
  | none =>
    have hflags : (r.under l).flags = r.flags := rfl
    rw [hd.toEnd_of_skip_cons (r := r.under l) ht, hflags, hs]
    rfl
  | some p =>
    obtain ⟨s, rest'⟩ := p
    rw [hd.toEnd_under_of_sign (ht ▸ hs) fun h => hstray (hd.eq_paren (h ▸ hs))]
    exact Option.bind_eq_none_iff.2 fun r' _ =>
      hd.toEnd_under_of_notMem fun hmem => hp ((hbeyond hs).subset hmem)

/-- The last sign of a text is read, but after it the text ends in a comment. -/
theorem outcome_of_comment {c : Char} (hcs : r.flags.skip cs = c :: rest)
    (hstray : c = ')' → r.outer ≠ []) (hx : d.sign r.flags (c :: rest) = some (s, []))
    (hy : ∀ t, '\n' ∉ t → d.sign r.flags (c :: (rest ++ ')' :: t)) = some (s, []))
    (hbeyond : ∀ {t s rest'}, d.sign r.flags (c :: (rest ++ ')' :: t)) = some (s, rest') →
      rest' <:+ t) : d.Outcome r cs := by
  have hs : d.sign r.flags (r.flags.skip cs) = some (s, []) := hcs ▸ hx
  have ht {t : List Char} (hn : '\n' ∉ t) :
      d.sign r.flags (r.flags.skip (cs ++ ')' :: t)) = some (s, []) := by
    rw [r.flags.skips.append hcs]
    exact hy t hn
  have hclosing (h : s = .closing) : r.outer ≠ [] := hstray (hd.eq_paren (h ▸ hx))
  by_cases h : ∃ r', r.after? s = some r' ∧ r'.outer = []
  · obtain ⟨r', hr, ho⟩ := h
    refine .inComment (p := r'.level.whole) ?_ (fun t hn => ?_) fun l t hn => ?_
    · rw [hd.toEnd_of_sign hs, hr, ← whole?_of_outer ho]
      exact toEnd_nil r'
    · rw [hd.toEnd_of_sign (ht hn), hr, ← whole?_of_outer ho]
      exact toEnd_nil r'
    · rw [hd.toEnd_under_of_sign (ht hn) hclosing, hr]
      exact hd.toEnd_under_of_notMem List.not_mem_nil
  · refine hd.outcome_of_beyond hcs hstray ?_ hbeyond
    rw [hd.toEnd_of_sign hs]
    refine Option.bind_eq_none_iff.2 fun r' hr => ?_
    rw [toEnd_nil]
    exact whole?_eq_none fun ho => h ⟨r', hr, ho⟩

/-- The reading of any text goes in one of the four ways, by induction on the length of the text. -/
theorem outcome (r : Reading) (cs : List Char) : d.Outcome r cs := by
  induction hn : cs.length using Nat.strongRecOn generalizing r cs with
  | ind n ih =>
  subst hn
  rcases hcs : r.flags.skip cs with _ | ⟨c, rest⟩
  · exact hd.outcome_of_blank hcs
  by_cases hstray : c = ')' ∧ r.outer = []
  · obtain ⟨rfl, ho⟩ := hstray
    obtain ⟨u, hu, hskip, ht⟩ := r.flags.skips.split hcs
    exact .strays hu (hd.ends_of_blank ho hskip ht)
  have hstray' : c = ')' → r.outer ≠ [] := fun hc ho => hstray ⟨hc, ho⟩
  cases ((hd.taking r.flags).cons c).keeps rest with
  | @inStep s rest' hx hy =>
    have hs : d.sign r.flags (r.flags.skip cs) = some (s, rest') := hcs ▸ hx
    have ht (t : List Char) :
        d.sign r.flags (r.flags.skip (cs ++ ')' :: t)) = some (s, rest' ++ ')' :: t) := by
      rw [r.flags.skips.append hcs]
      exact hy t
    have hclosing (h : s = .closing) : r.outer ≠ [] := hstray' (hd.eq_paren (h ▸ hx))
    cases hr : r.after? s with
    | none =>
      exact .fails (by rw [hd.toEnd_of_sign hs, hr]; rfl) fun l t _ => by
        rw [hd.toEnd_under_of_sign (ht t) hclosing, hr]
        rfl
    | some r' =>
      exact hd.outcome_of_steps hs ht hclosing hr (ih _ (hd.length_of_sign hs) r' rest' rfl)
  | inComment hx hy hbeyond => exact hd.outcome_of_comment hcs hstray' hx hy hbeyond
  | failed hx hbeyond =>
    exact hd.outcome_of_beyond hcs hstray' (by rw [hd.toEnd_of_skip_cons hcs, hx]; rfl) hbeyond

end Lawful

end Dialect

end CorpusQuery.Pattern
