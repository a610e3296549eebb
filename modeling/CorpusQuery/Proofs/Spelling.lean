import Mathlib.Data.List.Basic
import CorpusQuery.Json.Lexer
import CorpusQuery.Json.Writer

/-!
# What is written is cut into its tokens

A text spells tokens (`Spelled`) if it is made of their spellings one after the other, with any
blanks between them, and no number is continued by what follows it. Such a text is cut into just
these tokens (`Spelled.tokens_eq`), whatever the characters of its strings. The written form of a
value whose numbers fit a word spells the tokens of the value in either layout (`spelled_write`).
-/

namespace CorpusQuery

/-! ## Decimal numerals -/

namespace Decimal

theorem isDigit_digit : ∀ {n : Nat}, n < 10 → (digit n).isDigit = true := by
  decide

theorem isDigit_of_mem_digits {n : Nat} {c : Char} (hc : c ∈ digits n) : c.isDigit = true := by
  fun_induction digits n with
  | case1 n h =>
    obtain rfl := List.mem_singleton.1 hc
    exact isDigit_digit h
  | case2 n h ih =>
    rcases List.mem_append.1 hc with hc | hc
    · exact ih hc
    · obtain rfl := List.mem_singleton.1 hc
      exact isDigit_digit (Nat.mod_lt _ (by decide))

theorem digits_ne_nil (n : Nat) : digits n ≠ [] := by
  rw [digits]
  split <;> simp

theorem digits_eq_cons (n : Nat) : ∃ d ds, digits n = d :: ds ∧ d.isDigit = true := by
  obtain ⟨d, ds, hds⟩ := List.exists_cons_of_ne_nil (digits_ne_nil n)
  have hd : d ∈ digits n := hds ▸ List.mem_cons_self
  exact ⟨d, ds, hds, isDigit_of_mem_digits hd⟩

theorem head?_digits {n : Nat} (h : 0 < n) : (digits n).head? ≠ some '0' := by
  fun_induction digits n with
  | case1 n hn =>
    intro h0
    have : (digit n).toNat = 48 := congrArg Char.toNat (Option.some.inj h0)
    rw [toNat_digit hn] at this
    omega
  | case2 n hn ih =>
    rw [List.head?_append_of_ne_nil _ (digits_ne_nil _)]
    exact ih (by omega)

theorem digits_zero : digits 0 = ['0'] := by
  rw [digits]
  rfl

end Decimal

namespace Json

/-! ## Numbers -/

/-- Whether no number goes on with the first of these characters. -/
def EndsNumber : List Char → Prop
  | [] => True
  | c :: _ => c.isDigit = false ∧ c ≠ '.' ∧ c ≠ 'e' ∧ c ≠ 'E'

theorem EndsNumber.isDigit_eq_false {cs : List Char} (h : EndsNumber cs) :
    ∀ c ∈ cs.head?, c.isDigit = false := by
  cases cs with
  | nil => simp
  | cons c cs => simpa using h.1

theorem digitRun_append {ds cs : List Char} (hd : ∀ c ∈ ds, c.isDigit = true) (hne : ds ≠ [])
    (hcs : ∀ c ∈ cs.head?, c.isDigit = false) : digitRun (ds ++ cs) = .ok (ds, cs) := by
  have ht : (ds ++ cs).takeWhile Char.isDigit = ds := by
    rw [List.takeWhile_append_of_pos hd]
    cases cs with
    | nil => simp
    | cons c cs => simp [hcs c rfl]
  have hr : (ds ++ cs).dropWhile Char.isDigit = cs := by
    rw [List.dropWhile_append_of_pos hd]
    cases cs with
    | nil => rfl
    | cons c cs => simp [hcs c rfl]
  unfold digitRun
  rw [ht, hr]
  split
  · exact absurd rfl hne
  · exact absurd rfl hne
  · rfl

theorem fraction_of_endsNumber {cs : List Char} (h : EndsNumber cs) :
    fraction cs = .ok ([], cs) := by
  unfold fraction
  split
  · exact absurd rfl h.2.1
  · rfl

theorem exponent_of_endsNumber {cs : List Char} (h : EndsNumber cs) :
    exponent cs = .ok (none, cs) := by
  unfold exponent
  split
  · exact absurd rfl h.2.2.1
  · exact absurd rfl h.2.2.2
  · rfl

/-- Whether a number is an integer that fits a word, signed or unsigned. -/
def Number.Fits : Number → Prop
  | integer i => Int64.minValue.toInt ≤ i ∧ i < UInt64.size
  | spelled _ => False

theorem unsignedNumber_digits (negative : Bool) (n : Nat) {cs : List Char} (h : EndsNumber cs) :
    ∃ spelling, unsignedNumber negative (Decimal.digits n ++ cs)
      = .ok (Number.ofParts negative (Decimal.digits n) [] none spelling, cs) := by
  have hlead : ¬ ((Decimal.digits n).head? = some '0' ∧ 1 < (Decimal.digits n).length) := by
    rintro ⟨h0, h1⟩
    rcases Nat.eq_zero_or_pos n with rfl | hn
    · simp [Decimal.digits_zero] at h1
    · exact Decimal.head?_digits hn h0
  unfold unsignedNumber
  rw [digitRun_append (fun _ => Decimal.isDigit_of_mem_digits) (Decimal.digits_ne_nil n)
    h.isDigit_eq_false]
  simp only [hlead, if_false, fraction_of_endsNumber h, exponent_of_endsNumber h]
  exact ⟨_, rfl⟩

theorem number_digits (n : Nat) (cs : List Char) :
    number (Decimal.digits n ++ cs) = unsignedNumber false (Decimal.digits n ++ cs) := by
  obtain ⟨d, ds, hds, hd⟩ := Decimal.digits_eq_cons n
  rw [hds, List.cons_append]
  unfold number
  split
  · rename_i hm
    rw [(List.cons.inj hm).1] at hd
    exact absurd hd (by decide)
  · rfl

theorem number_signed {i : Int} (hi : (Number.integer i).Fits) {cs : List Char}
    (h : EndsNumber cs) : number (Decimal.signed i ++ cs) = .ok (.of (.integer i), cs) := by
  obtain ⟨hlo, hhi⟩ := hi
  cases i with
  | ofNat n =>
    have hn : n < UInt64.size := Int.ofNat_lt.1 hhi
    obtain ⟨sp, hsp⟩ := unsignedNumber_digits false n h
    refine ((number_digits n cs).trans hsp).trans ?_
    simp [Number.ofParts, Decimal.value_digits, hn]
  | negSucc n =>
    obtain ⟨sp, hsp⟩ := unsignedNumber_digits true (n + 1) h
    have hn : Int64.minValue.toInt ≤ -((n + 1 : Nat) : Int) := hlo
    refine Eq.trans hsp ?_
    unfold Number.ofParts
    rw [Decimal.value_digits, if_neg (by simp), if_pos (by simpa using hn)]
    rfl

/-! ## Strings -/

theorem value?_hexDigits : ∀ {n : Nat}, n < 32 →
    Hexadecimal.value? ['0', '0', hexDigit (n / 16), hexDigit (n % 16)] = some n := by
  decide

theorem ofWord_toNat {c : Char} (h : c.toNat < 32) : Piece.ofWord c.toNat = .char c := by
  rw [Piece.ofWord, if_pos (by simp; omega), Char.ofNat_toNat]

theorem pieces_word {a b c d : Char} {n : Nat} (h : Hexadecimal.value? [a, b, c, d] = some n)
    (cs : List Char) :
    pieces ('\\' :: 'u' :: a :: b :: c :: d :: cs)
      = (.ofWord n :: (pieces cs).1, (pieces cs).2) := by
  rw [pieces, h]

/-- A character is one piece, escaped or not. -/
theorem pieces_escape (c : Char) (cs : List Char) :
    pieces (escape c ++ cs) = (.char c :: (pieces cs).1, (pieces cs).2) := by
  unfold escape
  split_ifs with h1 h2 h3 h4 h5 h6 h7 h8
  iterate 7 subst c; rfl
  · rw [← ofWord_toNat h8]
    exact pieces_word (value?_hexDigits h8) cs
  · rw [List.singleton_append, pieces.eq_def]
    split <;> simp_all

theorem pieces_flatMap_escape (l cs : List Char) :
    pieces (l.flatMap escape ++ '"' :: cs) = (l.map .char, .ok cs) := by
  induction l with
  | nil => rfl
  | cons c l ih => rw [List.flatMap_cons, List.append_assoc, pieces_escape, ih, List.map_cons]

theorem join_chars (l : List Char) : join none (l.map .char) = .ok l := by
  induction l with
  | nil => rfl
  | cons c l ih => rw [List.map_cons, join, ih]; rfl

theorem string_escape (s : String) (cs : List Char) :
    string (s.toList.flatMap escape ++ '"' :: cs) = (.of s, cs) := by
  simp [string, pieces_flatMap_escape, join_chars, Except.map, Lexeme.of]

/-! ## Tokens -/

/-- The token that a mark of punctuation is. -/
def Token.ofMark? : Char → Option Token
  | '[' => some .openArray
  | ']' => some .closeArray
  | '{' => some .openObject
  | '}' => some .closeObject
  | ',' => some .comma
  | ':' => some .colon
  | _ => none

/-- The text spells the tokens, with any blanks before, between and after them. -/
inductive Spelled : List Token → List Char → Prop
  | nil : Spelled [] []
  | blank {ts c cs} : isBlank c = true → Spelled ts cs → Spelled ts (c :: cs)
  | mark {ts cs c t} : Token.ofMark? c = some t → Spelled ts cs → Spelled (t :: ts) (c :: cs)
  | text {ts cs} (s : String) : Spelled ts cs → Spelled (.text (.of s) :: ts) (quote s ++ cs)
  | word {ts cs c ws s} : word? c = some (ws, s) → Spelled ts cs →
      Spelled (.atom (.of s) :: ts) (c :: (ws ++ cs))
  | number {ts cs i} : (Number.integer i).Fits → EndsNumber cs → Spelled ts cs →
      Spelled (.atom (.of (.number (.integer i))) :: ts) (Decimal.signed i ++ cs)

theorem tokens_nil : tokens [] = [] := by
  rw [tokens]

theorem tokens_mark {c : Char} {t : Token} (h : Token.ofMark? c = some t) (cs : List Char) :
    tokens (c :: cs) = t :: tokens cs := by
  unfold Token.ofMark? at h
  split at h <;> cases h <;> rw [tokens] <;> rfl

theorem tokens_quote (s : String) (cs : List Char) :
    tokens (quote s ++ cs) = .text (.of s) :: tokens cs := by
  have h : quote s ++ cs = '"' :: (s.toList.flatMap escape ++ '"' :: cs) := by
    simp [quote]
  rw [h, tokens, string_escape]
  rfl

theorem tokens_word {c : Char} {ws : List Char} {s : Scalar} (h : word? c = some (ws, s))
    (cs : List Char) : tokens (c :: (ws ++ cs)) = .atom (.of s) :: tokens cs := by
  unfold word? at h
  split at h <;> cases h <;> rw [tokens] <;> simp [isBlank, atom, word?, afterWord]

/-- The first character of a number is a digit or the sign, which start nothing else. -/
theorem signed_eq_cons (i : Int) :
    ∃ c cs, Decimal.signed i = c :: cs ∧ (c = '-' ∨ c.isDigit = true) := by
  cases i with
  | ofNat n =>
    obtain ⟨d, ds, hds, hd⟩ := Decimal.digits_eq_cons n
    exact ⟨d, ds, hds, .inr hd⟩
  | negSucc n => exact ⟨'-', _, rfl, .inl rfl⟩

theorem tokens_of_numeric {c : Char} (h : c = '-' ∨ c.isDigit = true) (cs : List Char) :
    tokens (c :: cs) = .atom (atom c cs).1 :: tokens (atom c cs).2 := by
  rw [tokens]
  have hne : ∀ d : Char, d ≠ '-' → d.isDigit = false → c ≠ d := by
    rintro d hd hd' rfl
    simp_all
  simp [isBlank, hne]

theorem word?_of_numeric {c : Char} (h : c = '-' ∨ c.isDigit = true) : word? c = none := by
  unfold word?
  split <;> first | rfl | simp_all

theorem tokens_signed {i : Int} (hi : (Number.integer i).Fits) {cs : List Char}
    (h : EndsNumber cs) :
    tokens (Decimal.signed i ++ cs) = .atom (.of (.number (.integer i))) :: tokens cs := by
  obtain ⟨c, ds, hds, hc⟩ := signed_eq_cons i
  have hn := number_signed hi h
  rw [hds, List.cons_append] at hn ⊢
  have ha : atom c (ds ++ cs) = (.of (.number (.integer i)), cs) := by
    simp [atom, word?_of_numeric hc, hc, hn, Lexeme.of, Lexeme.map, Except.map]
  rw [tokens_of_numeric hc, ha]

/-- A text is cut into the tokens that it spells. -/
theorem Spelled.tokens_eq {ts : List Token} {cs : List Char} (h : Spelled ts cs) :
    tokens cs = ts := by
  induction h with
  | nil => exact tokens_nil
  | blank hc _ ih => rw [tokens, if_pos hc, ih]
  | mark hc _ ih => rw [tokens_mark hc, ih]
  | text s _ ih => rw [tokens_quote, ih]
  | word hw _ ih => rw [tokens_word hw, ih]
  | number hi hcs _ ih => rw [tokens_signed hi hcs, ih]

/-! ## Values -/

/-- The numbers of the value are integers that fit a word. -/
inductive Integral : Json → Prop
  | null : Integral null
  | bool (b : Bool) : Integral (bool b)
  | text (s : String) : Integral (text s)
  | number {n : Number} : n.Fits → Integral (.scalar (.number n))
  | array {es : List Json} : (∀ e ∈ es, Integral e) → Integral (.array es)
  | object {ms : List (String × Json)} : (∀ m ∈ ms, Integral m.2) → Integral (.object ms)

mutual

/-- The tokens of a value. -/
def toTokens : Json → List Token
  | .scalar (.text s) => [.text (.of s)]
  | .scalar s => [.atom (.of s)]
  | .array [] => [.openArray, .closeArray]
  | .array (e :: es) => .openArray :: (e.toTokens ++ (entryTokens es ++ [.closeArray]))
  | .object [] => [.openObject, .closeObject]
  | .object ((k, e) :: ms) =>
    .openObject :: .text (.of k) :: .colon ::
      (e.toTokens ++ (memberTokens ms ++ [.closeObject]))

/-- The tokens of the entries after the first. -/
def entryTokens : List Json → List Token
  | [] => []
  | e :: es => .comma :: (e.toTokens ++ entryTokens es)

/-- The tokens of the members after the first. -/
def memberTokens : List (String × Json) → List Token
  | [] => []
  | (k, e) :: ms => .comma :: .text (.of k) :: .colon :: (e.toTokens ++ memberTokens ms)

end

variable {ts : List Token} {cs : List Char}

theorem Spelled.gap (h : Spelled ts cs) (l : Layout) (d : Nat) : Spelled ts (l.gap d ++ cs) := by
  cases l with
  | compact => exact h
  | pretty =>
    have : ∀ n, Spelled ts (List.replicate n ' ' ++ cs) := by
      intro n
      induction n with
      | zero => exact h
      | succ n ih => exact .blank rfl ih
    exact .blank rfl (this _)

theorem Spelled.colon (h : Spelled ts cs) (l : Layout) :
    Spelled (.colon :: ts) (l.colon ++ cs) := by
  cases l with
  | compact => exact .mark rfl h
  | pretty => exact .mark rfl (.blank rfl h)

theorem endsNumber_cons {c : Char} (hc : c ∈ ['\n', ',', ']', '}']) (cs : List Char) :
    EndsNumber (c :: cs) := by
  have hfirst : c.isDigit = false ∧ c ≠ '.' ∧ c ≠ 'e' ∧ c ≠ 'E' := by
    simp only [List.mem_cons, List.not_mem_nil, or_false] at hc
    rcases hc with rfl | rfl | rfl | rfl <;> decide
  exact hfirst

theorem endsNumber_gap (h : EndsNumber cs) (l : Layout) (d : Nat) :
    EndsNumber (l.gap d ++ cs) := by
  cases l with
  | compact => exact h
  | pretty => exact endsNumber_cons (by decide) _

theorem endsNumber_writeEntries (h : EndsNumber cs) (l : Layout) (d : Nat) (es : List Json) :
    EndsNumber (writeEntries l d es ++ cs) := by
  cases es with
  | nil => exact h
  | cons e es => exact endsNumber_cons (by decide) _

theorem endsNumber_writeMembers (h : EndsNumber cs) (l : Layout) (d : Nat)
    (ms : List (String × Json)) : EndsNumber (writeMembers l d ms ++ cs) := by
  cases ms with
  | nil => exact h
  | cons m ms => exact endsNumber_cons (by decide) _

mutual

theorem spelled_write (l : Layout) : ∀ (j : Json) (d : Nat) {ts : List Token} {cs : List Char},
    j.Integral → EndsNumber cs → Spelled ts cs → Spelled (j.toTokens ++ ts) (j.write l d ++ cs)
  | .scalar .null, _, _, _, _, _, h => .word rfl h
  | .scalar (.bool true), _, _, _, _, _, h => .word rfl h
  | .scalar (.bool false), _, _, _, _, _, h => .word rfl h
  | .scalar (.number (.integer _)), _, _, _, .number hi, he, h => .number hi he h
  | .scalar (.text s), _, _, _, _, _, h => .text s h
  | .array [], _, _, _, _, _, h => .mark rfl (.mark rfl h)
  | .array (e :: es), d, ts, cs, .array hj, _, h => by
    have hend : EndsNumber (l.gap d ++ ']' :: cs) :=
      endsNumber_gap (endsNumber_cons (by decide) _) l d
    have hclose : Spelled (.closeArray :: ts) (l.gap d ++ ']' :: cs) := .gap (.mark rfl h) l d
    have hes := spelled_writeEntries l es (d + 1) (fun e he => hj e (List.mem_cons_of_mem _ he))
      hend hclose
    have he := spelled_write l e (d + 1) (hj e List.mem_cons_self)
      (endsNumber_writeEntries hend l (d + 1) es) hes
    simpa [toTokens, write] using Spelled.mark (c := '[') rfl (he.gap l (d + 1))
  | .object [], _, _, _, _, _, h => .mark rfl (.mark rfl h)
  | .object ((k, e) :: ms), d, ts, cs, .object hj, _, h => by
    have hend : EndsNumber (l.gap d ++ '}' :: cs) :=
      endsNumber_gap (endsNumber_cons (by decide) _) l d
    have hclose : Spelled (.closeObject :: ts) (l.gap d ++ '}' :: cs) := .gap (.mark rfl h) l d
    have hms := spelled_writeMembers l ms (d + 1) (fun m hm => hj m (List.mem_cons_of_mem _ hm))
      hend hclose
    have he := spelled_write l e (d + 1) (hj (k, e) List.mem_cons_self)
      (endsNumber_writeMembers hend l (d + 1) ms) hms
    have hk : Spelled _ _ := .text k (he.colon l)
    simpa [toTokens, write] using Spelled.mark (c := '{') rfl (hk.gap l (d + 1))

theorem spelled_writeEntries (l : Layout) : ∀ (es : List Json) (d : Nat) {ts : List Token}
    {cs : List Char}, (∀ e ∈ es, e.Integral) → EndsNumber cs → Spelled ts cs →
      Spelled (entryTokens es ++ ts) (writeEntries l d es ++ cs)
  | [], _, _, _, _, _, h => h
  | e :: es, d, ts, cs, hj, hcs, h => by
    have hes := spelled_writeEntries l es d (fun e he => hj e (List.mem_cons_of_mem _ he)) hcs h
    have he := spelled_write l e d (hj e List.mem_cons_self)
      (endsNumber_writeEntries hcs l d es) hes
    simpa [entryTokens, writeEntries] using Spelled.mark (c := ',') rfl (he.gap l d)

theorem spelled_writeMembers (l : Layout) : ∀ (ms : List (String × Json)) (d : Nat)
    {ts : List Token} {cs : List Char}, (∀ m ∈ ms, m.2.Integral) → EndsNumber cs →
      Spelled ts cs → Spelled (memberTokens ms ++ ts) (writeMembers l d ms ++ cs)
  | [], _, _, _, _, _, h => h
  | (k, e) :: ms, d, ts, cs, hj, hcs, h => by
    have hms := spelled_writeMembers l ms d (fun m hm => hj m (List.mem_cons_of_mem _ hm)) hcs h
    have he := spelled_write l e d (hj (k, e) List.mem_cons_self)
      (endsNumber_writeMembers hcs l d ms) hms
    have hk : Spelled _ _ := .text k (he.colon l)
    simpa [memberTokens, writeMembers] using Spelled.mark (c := ',') rfl (hk.gap l d)

end

/-- The text of a value spells the tokens of the value, in either layout. -/
theorem spelled_render {j : Json} (h : j.Integral) (l : Layout) :
    Spelled j.toTokens (j.render l).toList := by
  have hend : EndsNumber [] := trivial
  simpa [render] using spelled_write l j 0 h hend .nil

end Json

end CorpusQuery
