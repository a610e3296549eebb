import Mathlib.Data.List.TakeWhile
import CorpusQuery.Pattern.Escape

/-!
# Readers of a text with more to follow

A pattern may be spliced into a longer text, where a closing parenthesis comes right after it. What
the readers of patterns make of it there is what they make of it alone: they do the same and leave
all that was added, unless the pattern ends in a comment, which takes in the rest of the line, or is
cut short, so that they can only succeed beyond the parenthesis (`Keeps`). Readers are built from
few parts, and the property is kept by all ways to put them together (`Reader.Steady`).
-/

namespace CorpusQuery.Pattern

/-- Takes something off the start of a text, and leaves the rest. -/
abbrev Reader (α : Type) :=
  List Char → Option (α × List Char)

/-- What a reader does with a text, `x`, and with the text when a closing parenthesis and `t`
follow, `y t`. It does the same, and leaves all that was added; or the text ends in a comment, to
which the rest of the line belongs; or it fails, and can only succeed beyond the parenthesis. -/
inductive Keeps {α : Type} (x : Option (α × List Char)) (y : Reader α) : Prop
  | inStep {a rest} : x = some (a, rest) → (∀ t, y t = some (a, rest ++ ')' :: t)) → Keeps x y
  | inComment {a} : x = some (a, []) → (∀ t, '\n' ∉ t → y t = some (a, [])) →
      (∀ {t a rest}, y t = some (a, rest) → rest <:+ t) → Keeps x y
  | failed : x = none → (∀ {t a rest}, y t = some (a, rest) → rest <:+ t) → Keeps x y

theorem Keeps.bind {α β : Type} {x : Option (α × List Char)} {y : Reader α}
    {k : α × List Char → Option (β × List Char)} (h : Keeps x y)
    (hl : ∀ a {cs b rest}, k (a, cs) = some (b, rest) → rest <:+ cs)
    (hk : ∀ a rest, x = some (a, rest) → Keeps (k (a, rest)) fun t => k (a, rest ++ ')' :: t)) :
    Keeps (x >>= k) fun t => y t >>= k := by
  have hbeyond : (∀ {t a rest}, y t = some (a, rest) → rest <:+ t) →
      ∀ {t b rest}, (y t >>= k) = some (b, rest) → rest <:+ t := by
    intro hy t b rest h
    obtain ⟨⟨a, cs⟩, hya, hka⟩ := Option.bind_eq_some_iff.1 h
    exact (hl a hka).trans (hy hya)
  cases h with
  | @inStep a rest hx hy => simpa [hx, hy] using hk a rest hx
  | @inComment a hx hy hly =>
    cases hka : k (a, []) with
    | none => exact .failed (by simpa [hx] using hka) (hbeyond hly)
    | some p =>
      obtain ⟨b, rest⟩ := p
      obtain rfl : rest = [] := List.suffix_nil.1 (hl a hka)
      exact .inComment (by simpa [hx] using hka) (fun t ht => by simpa [hy t ht] using hka)
        (hbeyond hly)
  | failed hx hly => exact .failed (by simp [hx]) (hbeyond hly)

theorem Keeps.map {α β : Type} {x : Option (α × List Char)} {y : Reader α} (h : Keeps x y)
    (g : α → β) : Keeps (x.map (Prod.map g id)) fun t => (y t).map (Prod.map g id) := by
  have := h.bind (k := fun p => some (g p.1, p.2)) (fun a cs b rest h => ?_) fun a rest _ =>
    .inStep rfl fun _ => rfl
  · simp only [Option.map_eq_bind]
    exact this
  · cases h
    exact List.suffix_refl _

namespace Reader

variable {α β γ : Type}

/-- The reader leaves an end of the text, and keeps to what it reads when more follows. -/
structure Steady (r : Reader α) : Prop where
  leaves : ∀ {cs a rest}, r cs = some (a, rest) → rest <:+ cs
  keeps : ∀ cs, Keeps (r cs) fun t => r (cs ++ ')' :: t)

/-- The reader takes the first character in any case. -/
structure Taking (r : Reader α) : Prop where
  nil : r [] = none
  cons : ∀ c, Steady fun cs => r (c :: cs)

/-! ## Building steady readers -/

theorem Taking.steady {r : Reader α} (h : Taking r) : Steady r where
  leaves {cs a rest} hr := by
    obtain _ | ⟨c, cs⟩ := cs
    · rw [h.nil] at hr
      cases hr
    · exact ((h.cons c).leaves hr).trans (List.suffix_cons c cs)
  keeps cs := by
    obtain _ | ⟨c, cs⟩ := cs
    · exact .failed h.nil fun ht => (h.cons ')').leaves ht
    · exact (h.cons c).keeps cs

theorem Taking.length_lt {r : Reader α} (h : Taking r) {cs rest : List Char} {a : α}
    (hr : r cs = some (a, rest)) : rest.length < cs.length := by
  obtain _ | ⟨c, cs⟩ := cs
  · rw [h.nil] at hr
    cases hr
  · exact Nat.lt_succ_of_le ((h.cons c).leaves hr).length_le

namespace Steady

theorem fail : Steady fun _ => (none : Option (α × List Char)) where
  leaves := nofun
  keeps _ := .failed rfl nofun

theorem done (a : α) : Steady fun cs => some (a, cs) where
  leaves h := by
    cases h
    exact List.suffix_refl _
  keeps _ := .inStep rfl fun _ => rfl

/-- What does not depend on the text may fail before. -/
theorem opt {o : Option γ} {k : γ → Reader α} (h : ∀ b, Steady (k b)) :
    Steady fun cs => o >>= fun b => k b cs := by
  cases o with
  | none => exact fail
  | some b => exact h b

theorem ofOption (o : Option α) : Steady fun cs => o.map (·, cs) := by
  cases o with
  | none => exact fail
  | some a => exact done a

theorem bind {r : Reader α} {k : α × List Char → Option (β × List Char)} (hr : Steady r)
    (hk : ∀ a, Steady fun cs => k (a, cs)) : Steady fun cs => r cs >>= k where
  leaves {cs b rest} h := by
    obtain ⟨⟨a, cs'⟩, hra, hka⟩ := Option.bind_eq_some_iff.1 h
    exact ((hk a).leaves hka).trans (hr.leaves hra)
  keeps cs := (hr.keeps cs).bind (fun a => (hk a).leaves) fun a rest _ => (hk a).keeps rest

theorem ite_head {r₁ r₂ : Reader α} {p : Char → Bool} (hp : p ')' = false) (h₁ : Steady r₁)
    (h₂ : Steady r₂) : Steady fun cs => if cs.head?.any p then r₁ cs else r₂ cs where
  leaves {cs a rest} h := by
    split_ifs at h
    · exact h₁.leaves h
    · exact h₂.leaves h
  keeps cs := by
    obtain _ | ⟨c, cs⟩ := cs
    · simpa [hp] using h₂.keeps []
    · by_cases hc : p c = true
      · simpa [hc] using h₁.keeps (c :: cs)
      · simpa [hc] using h₂.keeps (c :: cs)

end Steady

theorem Taking.bind {r : Reader α} {k : α × List Char → Option (β × List Char)} (hr : Taking r)
    (hk : ∀ a, Steady fun cs => k (a, cs)) : Taking fun cs => r cs >>= k where
  nil := by rw [hr.nil]; rfl
  cons c := (hr.cons c).bind hk

end Reader

open Reader (Steady Taking)

/-! ## The start of a text -/

theorem split_of_dropWhile_nil {p : Char → Bool} {cs : List Char} (h : cs.dropWhile p = [])
    (t : List Char) : (cs ++ t).takeWhile p = cs ++ t.takeWhile p ∧
      (cs ++ t).dropWhile p = t.dropWhile p :=
  have hp := List.dropWhile_eq_nil_iff.1 h
  ⟨List.takeWhile_append_of_pos hp, List.dropWhile_append_of_pos hp⟩

theorem split_of_dropWhile_cons {p : Char → Bool} {c : Char} {cs rest : List Char}
    (h : cs.dropWhile p = c :: rest) : p c = false ∧ ∀ t, (cs ++ t).takeWhile p = cs.takeWhile p ∧
      (cs ++ t).dropWhile p = c :: (rest ++ t) := by
  have hlen : (cs.takeWhile p).length ≠ cs.length := by
    have := congrArg List.length (List.takeWhile_append_dropWhile (p := p) (l := cs))
    rw [h, List.length_append, List.length_cons] at this
    omega
  refine ⟨by simpa [h] using List.head?_dropWhile_not p cs, fun t => ⟨?_, ?_⟩⟩
  · rw [List.takeWhile_append, if_neg hlen]
  · rw [List.dropWhile_append, h]
    rfl

theorem split_append_paren {p : Char → Bool} (hp : p ')' = false) (cs t : List Char) :
    (cs ++ ')' :: t).takeWhile p = cs.takeWhile p ∧
      (cs ++ ')' :: t).dropWhile p = cs.dropWhile p ++ ')' :: t := by
  induction cs with
  | nil => simp [hp]
  | cons c cs ih => by_cases hc : p c <;> simp [hc, ih]

theorem eat_suffix {d : Char} {cs rest : List Char} {b : Bool} (h : eat d cs = some (b, rest)) :
    rest <:+ cs := by
  obtain _ | ⟨c, cs⟩ := cs
  · cases h
    exact List.suffix_refl _
  · rw [eat] at h
    split_ifs at h <;> cases h
    · exact List.suffix_cons _ _
    · exact List.suffix_refl _

theorem eat_append {d : Char} (hd : d ≠ ')') (cs t : List Char) :
    eat d (cs ++ ')' :: t) = (eat d cs).map (Prod.map id (· ++ ')' :: t)) := by
  obtain _ | ⟨c, cs⟩ := cs
  · exact if_neg hd.symm
  · simp only [List.cons_append, eat]
    split_ifs <;> rfl

/-- Whether a character comes next does not depend on what follows. -/
theorem steady_eat {d : Char} (hd : d ≠ ')') : Steady (eat d) where
  leaves := eat_suffix
  keeps cs := by
    rcases h : eat d cs with _ | ⟨b, rest⟩
    · exact .failed rfl fun ht => by simp [eat_append hd, h] at ht
    · exact .inStep rfl fun t => by rw [eat_append hd, h]; rfl

/-! ## Blanks and comments -/

theorem dropBlank_suffix (b : Bool) (cs : List Char) : dropBlank b cs <:+ cs := by
  fun_induction dropBlank b cs with
  | case1 | case5 => exact List.suffix_refl _
  | case2 _ _ ih | case3 _ _ _ _ _ ih | case4 _ _ _ _ ih => exact ih.trans (List.suffix_cons _ _)

theorem dropBlank_append {b : Bool} {cs rest : List Char} {c : Char}
    (h : dropBlank b cs = c :: rest) (t : List Char) :
    dropBlank b (cs ++ t) = c :: (rest ++ t) := by
  fun_induction dropBlank b cs <;> simp_all [dropBlank]

/-- A text of which nothing is left ends in a comment or outside of one. -/
theorem exists_dropBlank_append {b : Bool} {cs : List Char} (h : dropBlank b cs = []) :
    ∃ b', ∀ t, dropBlank b (cs ++ t) = dropBlank b' t := by
  fun_induction dropBlank b cs with
  | case1 b => exact ⟨b, fun _ => rfl⟩
  | _ => simp_all [dropBlank]

theorem dropBlank_comment {t : List Char} (h : '\n' ∉ t) : dropBlank true t = [] := by
  induction t with
  | nil => rfl
  | cons c t ih =>
    simp only [List.mem_cons, not_or] at h
    have hc : (c != '\n') = true := bne_iff_ne.2 (Ne.symm h.1)
    rw [dropBlank, if_pos rfl, hc, ih h.2]

/-- A function that passes over something of no account at the start of a text: nothing that follows
makes a difference once it has stopped; where the text ends before, it goes on, in a comment or
outside. -/
structure Skips (s : List Char → List Char) : Prop where
  suffix : ∀ cs, s cs <:+ cs
  append : ∀ {cs c rest}, s cs = c :: rest → ∀ t, s (cs ++ t) = c :: (rest ++ t)
  nil : ∀ {cs}, s cs = [] →
    (∀ t, s (cs ++ ')' :: t) = ')' :: t) ∨ ∀ t, s (cs ++ ')' :: t) = dropBlank true t

theorem skips_dropBlank : Skips (dropBlank false) where
  suffix := dropBlank_suffix false
  append := dropBlank_append
  nil h := by
    obtain ⟨b, hb⟩ := exists_dropBlank_append h
    simp only [hb]
    cases b with
    | false => exact .inl fun t => rfl
    | true => exact .inr fun t => rfl

theorem skips_id : Skips fun cs => cs where
  suffix := List.suffix_refl
  append h t := by rw [h, List.cons_append]
  nil h := by
    subst h
    exact .inl fun t => rfl

theorem skips_dropWhile : Skips (List.dropWhile isBlank) where
  suffix _ := List.dropWhile_suffix isBlank
  append {cs c rest} h t := by
    rw [List.dropWhile_append, h]
    rfl
  nil {cs} h := by
    refine .inl fun t => ?_
    rw [List.dropWhile_append, h]
    rfl

theorem Flags.skips (f : Flags) : Skips f.skip := by
  unfold Flags.skip
  split_ifs
  · exact skips_dropBlank
  · exact skips_id

/-- A parenthesis that comes next stands after blanks only. -/
theorem Skips.split {s : List Char → List Char} (hs : Skips s) {cs rest : List Char}
    (h : s cs = ')' :: rest) :
    ∃ u, cs = u ++ ')' :: rest ∧ s u = [] ∧ ∀ t, s (u ++ ')' :: t) = ')' :: t := by
  obtain ⟨u, rfl⟩ := h ▸ hs.suffix cs
  have hu : s u = [] := by
    rcases hu : s u with _ | ⟨c, rest'⟩
    · rfl
    · have := congrArg List.length (h.symm.trans (hs.append hu _))
      simp only [List.length_cons, List.length_append] at this
      omega
  refine ⟨u, rfl, hu, (hs.nil hu).resolve_right fun hcomment => ?_⟩
  have := (dropBlank_suffix true rest).length_le
  rw [← hcomment, h, List.length_cons] at this
  omega

/-- A reader after blanks keeps to what it reads if it does so without them. -/
theorem Keeps.after {α : Type} {r : Reader α} {s : List Char → List Char} {cs : List Char}
    (hs : Skips s) (hl : ∀ {cs a rest}, r cs = some (a, rest) → rest <:+ cs)
    (h : Keeps (r (s cs)) fun t => r (s cs ++ ')' :: t)) :
    Keeps (r (s cs)) fun t => r (s (cs ++ ')' :: t)) := by
  rcases hcs : s cs with _ | ⟨c, rest⟩
  · rw [hcs] at h
    rcases hs.nil hcs with ht | ht
    · simpa only [ht, List.nil_append] using h
    · have hbeyond : ∀ {t a rest}, r (s (cs ++ ')' :: t)) = some (a, rest) → rest <:+ t :=
        fun {t} _ _ h => (hl (ht t ▸ h)).trans (dropBlank_suffix true t)
      cases hr : r [] with
      | none => exact .failed rfl hbeyond
      | some p =>
        obtain ⟨a, rest⟩ := p
        obtain rfl : rest = [] := List.suffix_nil.1 (hl hr)
        exact .inComment rfl (fun t h => by rw [ht, dropBlank_comment h, hr]) hbeyond
  · rw [hcs] at h
    simpa only [hs.append hcs, List.cons_append] using h

theorem Reader.Steady.after {α : Type} {r : Reader α} {s : List Char → List Char} (h : Steady r)
    (hs : Skips s) : Steady fun cs => r (s cs) where
  leaves hr := (h.leaves hr).trans (hs.suffix _)
  keeps _ := Keeps.after hs h.leaves (h.keeps _)

variable {f : Flags}

/-! ## Loops -/

theorem dropBlank_dropBlank (b : Bool) (cs : List Char) :
    dropBlank false (dropBlank b cs) = dropBlank b cs := by
  fun_induction dropBlank b cs <;> simp_all [dropBlank]

theorem skip_skip (f : Flags) (cs : List Char) : f.skip (f.skip cs) = f.skip cs := by
  unfold Flags.skip
  split_ifs
  · exact dropBlank_dropBlank false cs
  · rfl

theorem skip_nil (f : Flags) : f.skip [] = [] :=
  List.suffix_nil.1 (f.skips.suffix [])

theorem skip_paren (f : Flags) (t : List Char) : f.skip (')' :: t) = ')' :: t := by
  unfold Flags.skip
  split_ifs <;> rfl

theorem length_of_skip {cs rest : List Char} {c : Char} (h : f.skip cs = c :: rest) :
    rest.length < cs.length := by
  have := (f.skips.suffix cs).length_le
  rw [h] at this
  exact this

/-- A loop that passes over blanks before each character is steady if it keeps to what it reads from
each character on that is no blank, provided that it does so after that character. -/
theorem Reader.Steady.of_skip {α : Type} {r : Reader α}
    (hl : ∀ {cs a rest}, r cs = some (a, rest) → rest <:+ cs) (hr : ∀ cs, r (f.skip cs) = r cs)
    (hnil : Keeps (r []) fun t => r (')' :: t))
    (hcons : ∀ c rest, (∀ t, f.skip (c :: (rest ++ t)) = c :: (rest ++ t)) →
      (Keeps (r rest) fun t => r (rest ++ ')' :: t)) →
      Keeps (r (c :: rest)) fun t => r (c :: (rest ++ ')' :: t))) : Steady r where
  leaves := hl
  keeps cs := by
    induction hn : cs.length using Nat.strongRecOn generalizing cs with
    | ind n ih =>
    subst hn
    have h : Keeps (r (f.skip cs)) fun t => r (f.skip cs ++ ')' :: t) := by
      rcases hcs : f.skip cs with _ | ⟨c, rest⟩
      · exact hnil
      · have hc : f.skip (c :: rest) = c :: rest := by rw [← hcs, skip_skip]
        exact hcons c rest (f.skips.append hc) (ih _ (length_of_skip hcs) rest rfl)
    simpa only [hr] using Keeps.after f.skips hl h

section Span

variable {p : Char → Bool}

theorem span_of_skip (p : Char → Bool) (cs : List Char) : f.span p cs = match f.skip cs with
    | [] => some ([], [])
    | c :: rest =>
      if p c then (f.span p rest).map (Prod.map (c :: ·) id) else some ([], c :: rest) := by
  rw [Flags.span]
  split
  · simp_all
  · simp_all
    rfl

theorem span_cons {c : Char} {cs : List Char} (h : f.skip (c :: cs) = c :: cs) :
    f.span p (c :: cs) =
      if p c then (f.span p cs).map (Prod.map (c :: ·) id) else some ([], c :: cs) := by
  rw [span_of_skip, h]

theorem span_leaves {cs ds rest : List Char} (h : f.span p cs = some (ds, rest)) :
    rest <:+ cs := by
  fun_induction f.span p cs generalizing ds with
  | case1 =>
    cases h
    exact List.nil_suffix
  | case2 cs c rest' hcs hc ih =>
    obtain ⟨⟨_, _⟩, hr, h⟩ := Option.map_eq_some_iff.1 h
    cases h
    exact (ih hr).trans ((List.suffix_cons c rest').trans (hcs ▸ f.skips.suffix cs))
  | case3 cs c rest' hcs hc =>
    cases h
    exact hcs ▸ f.skips.suffix cs

theorem steady_span (hp : p ')' = false) : Steady (f.span p) := by
  refine .of_skip (f := f) span_leaves ?_ ?_ ?_
  · exact fun cs => by rw [span_of_skip p cs, span_of_skip p (f.skip cs), skip_skip]
  · rw [span_of_skip, skip_nil]
    exact .inStep rfl fun t => by rw [span_cons (skip_paren f t), hp]; rfl
  · intro c rest hc h
    have hnil : f.skip (c :: rest) = c :: rest := by simpa using hc []
    simp only [span_cons (hc _), span_cons hnil]
    split_ifs
    · exact h.map (c :: ·)
    · exact .inStep rfl fun _ => rfl

end Span

theorem untilBrace_of_skip (cs : List Char) : untilBrace f cs = match f.skip cs with
    | [] => none
    | c :: rest =>
      if c = '}' then some ([], rest) else (untilBrace f rest).map (Prod.map (c :: ·) id) := by
  rw [untilBrace]
  split
  · simp_all
  · simp_all
    rfl

theorem untilBrace_cons {c : Char} {cs : List Char} (h : f.skip (c :: cs) = c :: cs) :
    untilBrace f (c :: cs) =
      if c = '}' then some ([], cs) else (untilBrace f cs).map (Prod.map (c :: ·) id) := by
  rw [untilBrace_of_skip, h]

theorem untilBrace_leaves {cs name rest : List Char} (h : untilBrace f cs = some (name, rest)) :
    rest <:+ cs := by
  fun_induction untilBrace f cs generalizing name with
  | case1 => cases h
  | case2 cs rest' hcs =>
    cases h
    exact (List.suffix_cons _ _).trans (hcs ▸ f.skips.suffix cs)
  | case3 cs c rest' hcs hc ih =>
    obtain ⟨⟨_, _⟩, hr, h⟩ := Option.map_eq_some_iff.1 h
    cases h
    exact (ih hr).trans ((List.suffix_cons _ _).trans (hcs ▸ f.skips.suffix cs))

theorem steady_untilBrace : Steady (untilBrace f) := by
  refine .of_skip (f := f) untilBrace_leaves ?_ ?_ ?_
  · exact fun cs => by rw [untilBrace_of_skip cs, untilBrace_of_skip (f.skip cs), skip_skip]
  · rw [untilBrace_of_skip, skip_nil]
    refine .failed rfl fun {t name rest} h => ?_
    rw [untilBrace_cons (skip_paren f t), if_neg (by decide)] at h
    obtain ⟨⟨_, _⟩, hr, h⟩ := Option.map_eq_some_iff.1 h
    cases h
    exact untilBrace_leaves hr
  · intro c rest hc h
    have hnil : f.skip (c :: rest) = c :: rest := by simpa using hc []
    simp only [untilBrace_cons (hc _), untilBrace_cons hnil]
    split_ifs
    · exact .inStep rfl fun _ => rfl
    · exact h.map (c :: ·)

end CorpusQuery.Pattern
