import Mathlib.Data.List.TakeWhile
import CorpusQuery.Proofs.Spelling

/-!
# The lexical grammar of JSON

A text is made of brackets, commas, colons, strings, numerals and words, with any blanks between
them (`Lexed`). What is cut off a text at a bracket is so made, and it is cut off in the same way
whatever follows the bracket (`exists_lexed`). For every part of a number this holds only as long as
what follows starts with the same character, since digits may go on (`Takes`).
-/

namespace CorpusQuery.Json

/-! ## The grammar -/

/-- The characters between the quotes of a string. -/
inductive Quoted : List Char → Prop
  | nil : Quoted []
  | plain {c cs} : 32 ≤ c.toNat → c ≠ '"' → c ≠ '\\' → Quoted cs → Quoted (c :: cs)
  | escape {c cs} : c ∈ ['"', '\\', '/', 'b', 'f', 'n', 'r', 't'] → Quoted cs →
      Quoted ('\\' :: c :: cs)
  | code {a b c d cs} : (∀ x ∈ [a, b, c, d], (Hexadecimal.digitValue? x).isSome) → Quoted cs →
      Quoted ('\\' :: 'u' :: a :: b :: c :: d :: cs)

/-- One digit or more. -/
def Digits (ds : List Char) : Prop :=
  ds ≠ [] ∧ ∀ c ∈ ds, c.isDigit = true

/-- The part of a number after its point, if it has one. -/
inductive Fraction : List Char → Prop
  | none : Fraction []
  | some {ds} : Digits ds → Fraction ('.' :: ds)

/-- The power of ten that a number is multiplied by, if it has one. -/
inductive Exponent : List Char → Prop
  | none : Exponent []
  | some {e sign ds} : e ∈ ['e', 'E'] → sign ∈ [[], ['+'], ['-']] → Digits ds →
      Exponent (e :: (sign ++ ds))

/-- The spelling of a number without its sign. -/
inductive Unsigned : List Char → Prop
  | intro {whole frac exp} : Digits whole → (whole.head? = some '0' → whole.length = 1) →
      Fraction frac → Exponent exp → Unsigned (whole ++ (frac ++ exp))

/-- The spelling of a number. -/
inductive Numeral : List Char → Prop
  | positive {cs} : Unsigned cs → Numeral cs
  | negative {cs} : Unsigned cs → Numeral ('-' :: cs)

/-- The text is made of the tokens, with any blanks before, between and after them. Only the kinds
of the tokens count. -/
inductive Lexed : List Token → List Char → Prop
  | nil : Lexed [] []
  | blank {ts c cs} : isBlank c = true → Lexed ts cs → Lexed ts (c :: cs)
  | mark {ts cs c t} : Token.ofMark? c = some t → Lexed ts cs → Lexed (t :: ts) (c :: cs)
  | text {ts cs q} (l : Lexeme String) : Quoted q → Lexed ts cs →
      Lexed (.text l :: ts) ('"' :: (q ++ '"' :: cs))
  | word {ts cs w} (l : Lexeme Scalar) : w ∈ ["null".toList, "true".toList, "false".toList] →
      Lexed ts cs → Lexed (.atom l :: ts) (w ++ cs)
  | number {ts cs n} (l : Lexeme Scalar) : Numeral n → Lexed ts cs →
      Lexed (.atom l :: ts) (n ++ cs)

/-! ## Strings -/

theorem mem_of_escaped? {c x : Char} (h : escaped? c = some x) :
    c ∈ ['"', '\\', '/', 'b', 'f', 'n', 'r', 't'] := by
  unfold escaped? at h
  split at h <;> simp_all

theorem isSome_of_value? {a b c d : Char} {n : Nat}
    (h : Hexadecimal.value? [a, b, c, d] = some n) :
    ∀ x ∈ [a, b, c, d], (Hexadecimal.digitValue? x).isSome := by
  cases ha : Hexadecimal.digitValue? a <;> cases hb : Hexadecimal.digitValue? b <;>
    cases hc : Hexadecimal.digitValue? c <;> cases hd : Hexadecimal.digitValue? d <;>
    simp_all [Hexadecimal.value?]

theorem pieces_escaped {c x : Char} (h : escaped? c = some x) (cs : List Char) :
    pieces ('\\' :: c :: cs) = (.char x :: (pieces cs).1, (pieces cs).2) := by
  unfold escaped? at h
  split at h <;> cases h <;> rfl

theorem pieces_plain {c : Char} (h : ¬ c.toNat < 32) (hq : c ≠ '"') (hb : c ≠ '\\')
    (cs : List Char) : pieces (c :: cs) = (.char c :: (pieces cs).1, (pieces cs).2) := by
  rw [pieces.eq_def]
  split <;> simp_all

theorem exists_quoted_pieces (cs : List Char) {rest : List Char} (h : (pieces cs).2 = .ok rest) :
    ∃ q, cs = q ++ '"' :: rest ∧ Quoted q ∧
      ∀ x, pieces (q ++ '"' :: x) = ((pieces cs).1, .ok x) := by
  fun_induction pieces cs with
  | case2 cs =>
    cases h
    exact ⟨[], rfl, .nil, fun x => rfl⟩
  | case4 a b c d cs n hn ps r hps ih =>
    simp only [hps] at ih
    obtain ⟨q, rfl, hq, hx⟩ := ih h
    refine ⟨_, rfl, .code (isSome_of_value? hn) hq, fun x => ?_⟩
    simp only [List.cons_append, pieces_word hn, hx]
  | case8 c cs _ _ x hx ps r hps ih =>
    simp only [hps] at ih
    obtain ⟨q, rfl, hq, hy⟩ := ih h
    refine ⟨_, rfl, .escape (mem_of_escaped? hx) hq, fun y => ?_⟩
    simp only [List.cons_append, pieces_escaped hx, hy]
  | case10 c cs hquote _ _ hlast hnext hc ps r hps ih =>
    simp only [hps] at ih
    obtain ⟨q, rfl, hq, hx⟩ := ih h
    have hb : c ≠ '\\' := by
      rintro rfl
      cases q <;> exact hnext _ _ rfl rfl
    refine ⟨_, rfl, .plain (Nat.le_of_not_lt hc) hquote hb hq, fun x => ?_⟩
    simp only [List.cons_append, pieces_plain hc hquote hb, hx]
  | _ => cases h

theorem exists_quoted {cs : List Char} (h : (string cs).2 ≠ []) :
    ∃ q, cs = q ++ '"' :: (string cs).2 ∧ Quoted q ∧
      ∀ x, string (q ++ '"' :: x) = ((string cs).1, x) := by
  unfold string at *
  rcases hp : pieces cs with ⟨ps, f | rest⟩
  · rw [hp] at h
    exact absurd rfl h
  · obtain ⟨q, hcs, hq, hx⟩ := exists_quoted_pieces cs (by rw [hp])
    exact ⟨q, hcs, hq, fun x => by rw [hx, hp]⟩

/-! ## Numbers -/

/-- The reader takes `u` and makes `a` of it, before any text that starts as `rest` does. -/
def Takes {ε α : Type} (r : List Char → Except ε (α × List Char)) (a : α) (u rest : List Char) :
    Prop :=
  ∀ x, x.head? = rest.head? → r (u ++ x) = .ok (a, x)

variable {cs rest : List Char}

theorem exists_digits {ds : List Char} (h : digitRun cs = .ok (ds, rest)) :
    cs = ds ++ rest ∧ Digits ds ∧ Takes digitRun ds ds rest := by
  unfold digitRun at h
  split at h
  · cases h
  · cases h
  next hne hne' =>
  cases h
  have hds : ∀ c ∈ cs.takeWhile Char.isDigit, c.isDigit = true := fun c =>
    List.mem_takeWhile_imp
  have hnil : cs.takeWhile Char.isDigit ≠ [] := by
    intro h0
    cases hd : cs.dropWhile Char.isDigit with
    | nil => exact hne h0 hd
    | cons c cs => exact hne' c cs h0 hd
  refine ⟨List.takeWhile_append_dropWhile.symm, ⟨hnil, hds⟩, fun x hx => ?_⟩
  refine digitRun_append hds hnil fun c hc => ?_
  have hstop := List.head?_dropWhile_not Char.isDigit cs
  rw [← hx, Option.mem_def.1 hc] at hstop
  exact hstop

theorem ne_cons_of_head? {c : Char} {x : List Char} (h : ∀ ds, cs = c :: ds → False)
    (hx : x.head? = cs.head?) (ds : List Char) : x ≠ c :: ds := by
  rintro rfl
  obtain _ | ⟨d, cs⟩ := cs
  · cases hx
  · cases hx
    exact h cs rfl

theorem exists_fraction {ds : List Char} (h : fraction cs = .ok (ds, rest)) :
    ∃ u, cs = u ++ rest ∧ Fraction u ∧ Takes fraction ds u rest := by
  unfold fraction at h
  split at h
  · obtain ⟨rfl, hds, ht⟩ := exists_digits h
    exact ⟨_, rfl, .some hds, ht⟩
  next hdot =>
  cases h
  refine ⟨[], rfl, .none, fun x hx => ?_⟩
  rw [List.nil_append, fraction.eq_def]
  split
  · exact absurd rfl (ne_cons_of_head? hdot hx _)
  · rfl

/-- A reader that passes on what another makes of the text takes what that one takes. -/
theorem exists_of_map {ε α β : Type} {r : List Char → Except ε (α × List Char)} {f : α → β} {b : β}
    (h : (r cs).map (Prod.map f id) = .ok (b, rest)) : ∃ a, r cs = .ok (a, rest) ∧
      ∀ u, Takes r a u rest → Takes (fun cs => (r cs).map (Prod.map f id)) b u rest := by
  cases hr : r cs with
  | error => rw [hr] at h; cases h
  | ok y =>
    rw [hr] at h
    cases h
    exact ⟨y.1, rfl, fun u hu x hx => by simp [hu x hx, Except.map]⟩

theorem exists_exponentDigits {e : Int} (h : exponentDigits cs = .ok (e, rest)) :
    ∃ sign ds, cs = sign ++ ds ++ rest ∧ sign ∈ [[], ['+'], ['-']] ∧ Digits ds ∧
      Takes exponentDigits e (sign ++ ds) rest := by
  unfold exponentDigits at h
  split at h
  all_goals
    obtain ⟨ds, hr, hmap⟩ := exists_of_map h
    obtain ⟨rfl, hds, ht⟩ := exists_digits hr
  · exact ⟨['-'], ds, rfl, by simp, hds, hmap _ ht⟩
  · exact ⟨['+'], ds, rfl, by simp, hds, hmap _ ht⟩
  next hminus hplus =>
  refine ⟨[], ds, rfl, by simp, hds, fun x hx => ?_⟩
  -- the digits are not empty, so what comes after them decides about no sign
  have hhead : (ds ++ x).head? = (ds ++ rest).head? := by
    rw [List.head?_append, List.head?_append, hx]
  rw [List.nil_append, exponentDigits.eq_def]
  split
  · next heq => exact absurd heq (ne_cons_of_head? hminus hhead _)
  · next heq => exact absurd heq (ne_cons_of_head? hplus hhead _)
  · exact hmap _ ht x hx

theorem exists_exponent {e : Option Int} (h : exponent cs = .ok (e, rest)) :
    ∃ u, cs = u ++ rest ∧ Exponent u ∧ Takes exponent e u rest := by
  unfold exponent at h
  split at h
  iterate 2
    obtain ⟨e, hr, hmap⟩ := exists_of_map h
    obtain ⟨sign, ds, rfl, hs, hds, ht⟩ := exists_exponentDigits hr
    refine ⟨_, rfl, .some (by simp) hs hds, ?_⟩
    exact fun x hx => hmap _ ht x hx
  next hlower hupper =>
  cases h
  refine ⟨[], rfl, .none, fun x hx => ?_⟩
  rw [List.nil_append, exponent.eq_def]
  split
  · exact absurd rfl (ne_cons_of_head? hlower hx _)
  · exact absurd rfl (ne_cons_of_head? hupper hx _)
  · rfl

theorem head?_append_congr (u : List Char) {x y : List Char} (h : x.head? = y.head?) :
    (u ++ x).head? = (u ++ y).head? := by
  rw [List.head?_append, List.head?_append, h]

theorem take_length_sub (u x : List Char) : (u ++ x).take ((u ++ x).length - x.length) = u := by
  simp

theorem exists_unsigned {negative : Bool} {l : Lexeme Number}
    (h : unsignedNumber negative cs = .ok (l, rest)) :
    ∃ u, cs = u ++ rest ∧ Unsigned u ∧ Takes (unsignedNumber negative) l u rest := by
  unfold unsignedNumber at h
  split at h
  · cases h
  next hw =>
  split at h
  · cases h
  next hzero =>
  split at h
  · cases h
  next hf =>
  split at h
  · cases h
  next he =>
  cases h
  obtain ⟨rfl, hds, htw⟩ := exists_digits hw
  obtain ⟨f, rfl, hfrac, htf⟩ := exists_fraction hf
  obtain ⟨e, rfl, hexp, hte⟩ := exists_exponent he
  refine ⟨_, by simp only [List.append_assoc], .intro hds ?_ hfrac hexp, fun x hx => ?_⟩
  · intro h0
    have := List.length_pos_of_ne_nil hds.1
    have := not_and.1 hzero h0
    omega
  · -- the spelling is what was taken, before `x` as before `rest`
    have hte := hte x hx
    have htf := htf (e ++ x) (head?_append_congr _ hx)
    have htw := htw (f ++ (e ++ x)) (head?_append_congr _ (head?_append_congr _ hx))
    simp only [unsignedNumber, List.append_assoc, htw, htf, hte, hzero, if_false]
    simp only [← List.append_assoc, take_length_sub]

theorem Unsigned.head?_ne {u : List Char} (h : Unsigned u) (x : List Char) :
    ∀ ds, u ++ x ≠ '-' :: ds := by
  cases h with
  | @intro whole frac exp hds _ _ _ =>
    obtain _ | ⟨d, ds⟩ := whole
    · exact absurd rfl hds.1
    · rintro _ ⟨⟩
      exact absurd (hds.2 '-' List.mem_cons_self) (by decide)

theorem exists_numeral {l : Lexeme Number} (h : number cs = .ok (l, rest)) :
    ∃ n, cs = n ++ rest ∧ Numeral n ∧ Takes number l n rest := by
  unfold number at h
  split at h
  · obtain ⟨u, rfl, hu, ht⟩ := exists_unsigned h
    exact ⟨_, rfl, .negative hu, fun x hx => ht x hx⟩
  · obtain ⟨u, rfl, hu, ht⟩ := exists_unsigned h
    refine ⟨_, rfl, .positive hu, fun x hx => ?_⟩
    rw [number.eq_def]
    split
    · next heq => exact absurd heq (hu.head?_ne x _)
    · exact ht x hx

/-! ## Other scalars -/

theorem append_of_afterWord {ws : List Char} (h : afterWord ws cs = .ok rest) :
    cs = ws ++ rest := by
  fun_induction afterWord ws cs <;> simp_all

theorem afterWord_append (ws x : List Char) : afterWord ws (ws ++ x) = .ok x := by
  induction ws with
  | nil => rfl
  | cons w ws ih => rw [List.cons_append, afterWord, if_pos rfl, ih]

theorem mem_words {c : Char} {ws : List Char} {s : Scalar} (h : word? c = some (ws, s)) :
    c :: ws ∈ ["null".toList, "true".toList, "false".toList] := by
  unfold word? at h
  split at h <;> cases h <;> decide

theorem Numeral.exists_cons {n : List Char} {c : Char} (h : Numeral n) (hcs : c :: cs = n ++ rest) :
    ∃ u, n = c :: u ∧ cs = u ++ rest := by
  have hne : n ≠ [] := by
    cases h with
    | positive h => exact fun h0 => h.head?_ne ['-'] [] (by rw [h0]; rfl)
    | negative h => exact List.cons_ne_nil _ _
  obtain ⟨d, u, rfl⟩ := List.exists_cons_of_ne_nil hne
  obtain ⟨rfl, rfl⟩ := List.cons.inj hcs
  exact ⟨u, rfl, rfl⟩

theorem exists_scalar {c : Char} (h : (atom c cs).2 ≠ []) : ∃ u, cs = u ++ (atom c cs).2 ∧
    (c :: u ∈ ["null".toList, "true".toList, "false".toList] ∨ Numeral (c :: u)) ∧
    ∀ x, x.head? = (atom c cs).2.head? → atom c (u ++ x) = ((atom c cs).1, x) := by
  rcases hw : word? c with _ | ⟨ws, s⟩
  · by_cases hc : c = '-' ∨ c.isDigit
    · rcases hn : number (c :: cs) with l | ⟨l, rest⟩
      · simp [atom, hw, hc, hn] at h
      · have ha : atom c cs = (l.map .number, rest) := by simp [atom, hw, hc, hn]
        obtain ⟨n, hcs, hnum, ht⟩ := exists_numeral hn
        obtain ⟨u, rfl, rfl⟩ := hnum.exists_cons hcs
        refine ⟨u, by rw [ha], .inr hnum, fun x hx => ?_⟩
        have hx := ht x (by rw [hx, ha])
        rw [List.cons_append] at hx
        simp [atom, hw, hc, hx, hn]
    · simp [atom, hw, hc] at h
  · rcases ha : afterWord ws cs with f | rest
    · simp [atom, hw, ha] at h
    · obtain rfl := append_of_afterWord ha
      have hx : ∀ x, atom c (ws ++ x) = (.of s, x) := fun x => by
        simp [atom, hw, afterWord_append]
      exact ⟨ws, by rw [hx], .inl (mem_words hw), fun x _ => by rw [hx, hx]⟩

/-! ## Texts -/

theorem tokens_blank {c : Char} (h : isBlank c = true) (cs : List Char) :
    tokens (c :: cs) = tokens cs := by
  rw [tokens, if_pos h]

theorem tokens_string (cs : List Char) :
    tokens ('"' :: cs) = .text (string cs).1 :: tokens (string cs).2 := by
  rw [tokens]
  rfl

theorem tokens_atom {c : Char} (hb : ¬ isBlank c = true) (hm : Token.ofMark? c = none)
    (hq : c ≠ '"') (cs : List Char) :
    tokens (c :: cs) = .atom (atom c cs).1 :: tokens (atom c cs).2 := by
  have hne : c ≠ '[' ∧ c ≠ ']' ∧ c ≠ '{' ∧ c ≠ '}' ∧ c ≠ ',' ∧ c ≠ ':' := by
    refine ⟨?_, ?_, ?_, ?_, ?_, ?_⟩ <;> rintro rfl <;> cases hm
  rw [tokens, if_neg hb]
  simp only [hne, hq, if_false]

/-- The tokens that end containers. -/
inductive Token.Closing : Token → Prop
  | array : Closing .closeArray
  | object : Closing .closeObject

/-- What starts with no blank starts with a token. If the token ends a container, or if there is
something after it, it is one of the grammar, and it is cut off in the same way as long as what
follows starts alike. After the end of a container not even that is needed. -/
theorem exists_token {c : Char} (hb : ¬ isBlank c = true) (cs : List Char) :
    ∃ t rest, tokens (c :: cs) = t :: tokens rest ∧ rest.length ≤ cs.length ∧
      (t.Closing ∨ rest ≠ [] → ∃ w, c :: cs = w ++ rest ∧
        (∀ {ts u}, Lexed ts u → Lexed (t :: ts) (w ++ u)) ∧
        ∀ x, t.Closing ∨ x.head? = rest.head? → tokens (w ++ x) = t :: tokens x) := by
  rcases hm : Token.ofMark? c with _ | t
  · by_cases hq : c = '"'
    · subst hq
      refine ⟨_, _, tokens_string cs, length_string_le cs, fun h => ?_⟩
      obtain ⟨q, hcs, hquoted, hx⟩ := exists_quoted (h.resolve_left nofun)
      refine ⟨'"' :: (q ++ ['"']), by simpa using hcs, fun hl => ?_, fun x _ => ?_⟩
      · simpa using Lexed.text _ hquoted hl
      · simp [tokens_string, hx]
    · refine ⟨_, _, tokens_atom hb hm hq cs, length_atom_le c cs, fun h => ?_⟩
      obtain ⟨u, hcs, hu, hx⟩ := exists_scalar (h.resolve_left nofun)
      refine ⟨c :: u, congrArg (c :: ·) hcs, fun hl => ?_, fun x h => ?_⟩
      · exact hu.elim (fun hu => .word _ hu hl) fun hu => .number _ hu hl
      · rw [List.cons_append, tokens_atom hb hm hq, hx x (h.resolve_left nofun)]
  · exact ⟨t, cs, tokens_mark hm cs, le_rfl, fun _ =>
      ⟨[c], rfl, fun hl => .mark hm hl, fun x _ => tokens_mark hm x⟩⟩

/-- The text up to the end of a container is cut into the same tokens whatever follows. -/
theorem exists_lexed {cs : List Char} {ts ts' : List Token} {t : Token} (ht : t.Closing)
    (h : tokens cs = ts ++ t :: ts') : ∃ u rest, cs = u ++ rest ∧ Lexed (ts ++ [t]) u ∧
      ∀ x, tokens (u ++ x) = ts ++ t :: tokens x := by
  -- by induction on the length of the text, of which every token takes something
  induction hn : cs.length using Nat.strongRecOn generalizing cs ts with
  | ind n ih =>
  subst hn
  obtain _ | ⟨c, cs⟩ := cs
  · simp [tokens_nil] at h
  by_cases hb : isBlank c = true
  · rw [tokens_blank hb] at h
    obtain ⟨u, rest, rfl, hl, hx⟩ := ih _ (Nat.lt_succ_self _) h rfl
    exact ⟨c :: u, rest, rfl, .blank hb hl, fun x => by rw [List.cons_append, tokens_blank hb, hx]⟩
  obtain ⟨t₀, rest₀, htokens, hlen, hcut⟩ := exists_token hb cs
  rw [htokens] at h
  obtain _ | ⟨_, ts⟩ := ts
  · obtain ⟨rfl, rfl⟩ := List.cons.inj h
    obtain ⟨w, hw, hl, hx⟩ := hcut (.inl ht)
    exact ⟨w, rest₀, hw, by simpa using hl .nil, fun x => hx x (.inl ht)⟩
  · obtain ⟨rfl, htail⟩ := List.cons.inj h
    obtain ⟨u, rest, rfl, hl, hx⟩ := ih _ (Nat.lt_succ_of_le hlen) htail rfl
    have hu : u ≠ [] := by
      rintro rfl
      simpa [tokens_nil] using hx []
    obtain ⟨w, hw, hl', hx'⟩ := hcut (.inr (List.append_ne_nil_of_left_ne_nil hu _))
    refine ⟨w ++ u, rest, by rw [hw, List.append_assoc], hl' hl, fun x => ?_⟩
    have hhead : (u ++ x).head? = (u ++ rest).head? := by
      rw [List.head?_append_of_ne_nil _ hu, List.head?_append_of_ne_nil _ hu]
    rw [List.append_assoc, hx' _ (.inr hhead), hx]
    rfl

/-! ## Ends of texts -/

/-- The last character of the text, if there is one, is such. -/
def EndsIn (p : Char → Prop) (cs : List Char) : Prop :=
  ∀ c ∈ cs.getLast?, p c

theorem EndsIn.append {p : Char → Prop} {us cs : List Char} (hu : EndsIn p us) (hc : EndsIn p cs) :
    EndsIn p (us ++ cs) := by
  intro c h
  rw [List.getLast?_append, Option.mem_def, Option.or_eq_some_iff] at h
  exact h.elim (hc c) fun h => hu c h.2

theorem endsIn_singleton {p : Char → Prop} {c : Char} (h : p c) : EndsIn p [c] := by
  rintro _ ⟨⟩
  exact h

theorem Digits.endsIn {ds : List Char} (h : Digits ds) (us : List Char) :
    EndsIn (·.isDigit = true) (us ++ ds) := by
  intro c hc
  rw [List.getLast?_append_of_ne_nil _ h.1] at hc
  exact h.2 c (List.mem_of_getLast? hc)

theorem Unsigned.endsIn {u : List Char} (h : Unsigned u) (us : List Char) :
    EndsIn (·.isDigit = true) (us ++ u) := by
  cases h with
  | intro hw _ hf he =>
    rw [← List.append_assoc]
    refine (hw.endsIn us).append (.append ?_ ?_)
    · cases hf with
      | none => exact nofun
      | some hds => exact hds.endsIn ['.']
    · cases he with
      | none => exact nofun
      | @some e sign _ _ _ hds => exact hds.endsIn (e :: sign)

/-- A text of tokens ends in a blank, a mark, a quote, a digit or the last letter of a word. -/
theorem Lexed.endsIn {ts : List Token} {cs : List Char} (h : Lexed ts cs) :
    EndsIn (fun c => isBlank c ∨ (Token.ofMark? c).isSome ∨ c.isDigit ∨ c ∈ ['"', 'l', 'e'])
      cs := by
  induction h with
  | nil => exact nofun
  | blank hc _ ih => exact (endsIn_singleton (.inl hc)).append ih
  | mark hm _ ih => exact (endsIn_singleton (.inr (.inl (by rw [hm]; rfl)))).append ih
  | @text _ _ q _ _ _ ih =>
    rw [← List.cons_append, List.append_cons]
    refine EndsIn.append (fun c hc => ?_) ih
    rw [List.getLast?_concat] at hc
    cases hc
    simp
  | word _ hw _ ih =>
    have hlast : ∀ w ∈ ["null".toList, "true".toList, "false".toList], ∀ c ∈ w.getLast?,
        c ∈ ['"', 'l', 'e'] := by
      simp
    exact EndsIn.append (fun c hc => .inr (.inr (.inr (hlast _ hw c hc)))) ih
  | number _ hn _ ih =>
    refine EndsIn.append (fun c hc => .inr (.inr (.inl ?_))) ih
    cases hn with
    | positive hu => exact hu.endsIn [] c hc
    | negative hu => exact hu.endsIn ['-'] c hc

end CorpusQuery.Json
