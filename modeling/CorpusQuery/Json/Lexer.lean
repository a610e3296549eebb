import CorpusQuery.Decimal
import CorpusQuery.Hexadecimal
import CorpusQuery.Json.Basic
import CorpusQuery.Json.Magnitude
import CorpusQuery.Json.Problem

/-!
# Tokens of JSON

A text is cut into brackets, commas, colons, strings and the other scalars (`tokens`). Strings and
scalars come with two views (`Lexeme`): what a reader gets, and what meets one who only passes over
the value. Passing over looks less closely: it neither pairs surrogates nor asks how large a number
is. The tokens end at the first lexeme that both views refuse.
-/

namespace CorpusQuery.Json

/-- A string or another scalar, as it is read and as it is passed over. -/
structure Lexeme (α : Type) where
  read : Except Fault α
  skip : Option Fault

namespace Lexeme

variable {α β : Type}

def of (a : α) : Lexeme α := ⟨.ok a, none⟩

/-- Refused by both views alike. -/
def broken (f : Fault) : Lexeme α := ⟨.error f, some f⟩

/-- Refused by both views, but where the text ends one who passes over sees a wrong character. -/
def endless : Lexeme α := ⟨.error .truncated, some .malformed⟩

def map (f : α → β) (l : Lexeme α) : Lexeme β := ⟨l.read.map f, l.skip⟩

end Lexeme

inductive Token where
  | openArray
  | closeArray
  | openObject
  | closeObject
  | comma
  | colon
  | text (l : Lexeme String)
  | atom (l : Lexeme Scalar)

/-- The four characters that may stand between tokens. -/
def isBlank (c : Char) : Bool :=
  c == ' ' || c == '\t' || c == '\n' || c == '\r'

/-! ## Strings -/

/-- The fault of an escape that wants four digits where no four characters are left: the text has
ended, unless what is left fills four bytes. -/
def shortHexFault (cs : List Char) : Fault :=
  if (String.ofList cs).utf8ByteSize < 4 then .truncated else .malformed

/-- The characters that a backslash and one letter stand for. -/
def escaped? : Char → Option Char
  | '"' => some '"'
  | '\\' => some '\\'
  | '/' => some '/'
  | 'b' => some '\x08'
  | 'f' => some '\x0c'
  | 'n' => some '\n'
  | 'r' => some '\r'
  | 't' => some '\t'
  | _ => none

/-- A piece of a string: a character, or one of the two halves that an escaped character beyond the
first 65536 is written in. -/
inductive Piece where
  | char (c : Char)
  | half (n : Nat)

/-- The piece that an escaped number of 16 bits stands for. -/
def Piece.ofWord (n : Nat) : Piece :=
  if n < 0xD800 || 0xDFFF < n then .char (.ofNat n) else .half n

/-- The pieces of a string from after its opening quote, and the text after its closing one. -/
def pieces : List Char → List Piece × Except Fault (List Char)
  | [] => ([], .error .truncated)
  | '"' :: cs => ([], .ok cs)
  | '\\' :: 'u' :: a :: b :: c :: d :: cs =>
    match Hexadecimal.value? [a, b, c, d] with
    | none => ([], .error .malformed)
    | some n =>
      let (ps, rest) := pieces cs
      (.ofWord n :: ps, rest)
  | '\\' :: 'u' :: cs => ([], .error (shortHexFault cs))
  | ['\\'] => ([], .error .truncated)
  | '\\' :: c :: cs =>
    match escaped? c with
    | none => ([], .error .malformed)
    | some x =>
      let (ps, rest) := pieces cs
      (.char x :: ps, rest)
  | c :: cs =>
    if c.toNat < 32 then
      ([], .error .malformed)
    else
      let (ps, rest) := pieces cs
      (.char c :: ps, rest)

/-- The characters of a string: each high half must stand before a low one, with which it makes one
character. Where the pieces end by a fault, a high half in the last place meets that fault. -/
def join (last : Option Fault) : List Piece → Except Fault (List Char)
  | [] => match last with
    | none => .ok []
    | some f => .error f
  | .char c :: ps => (join last ps).map (c :: ·)
  | .half n :: .half m :: ps =>
    if n < 0xDC00 && 0xDC00 ≤ m then
      (join last ps).map (.ofNat (0x10000 + (n - 0xD800) * 0x400 + (m - 0xDC00)) :: ·)
    else
      .error .malformed
  | [.half n] => .error (if n < 0xDC00 then last.getD .malformed else .malformed)
  | .half _ :: .char _ :: _ => .error .malformed

/-- The string from after its opening quote, and the text after it. -/
def string (cs : List Char) : Lexeme String × List Char :=
  match pieces cs with
  | (ps, .ok rest) => (⟨(join none ps).map String.ofList, none⟩, rest)
  | (ps, .error f) => (⟨(join (some f) ps).map String.ofList, some f⟩, [])

theorem length_pieces_le (cs : List Char) {rest : List Char} (h : (pieces cs).2 = .ok rest) :
    rest.length ≤ cs.length := by
  fun_induction pieces cs <;> simp_all <;> omega

theorem length_string_le (cs : List Char) : (string cs).2.length ≤ cs.length := by
  unfold string
  split
  · next h => exact length_pieces_le cs (by rw [h])
  · exact Nat.zero_le _

/-! ## Numbers -/

/-- One digit or more, and what follows. -/
def digitRun (cs : List Char) : Except (Lexeme Number) (List Char × List Char) :=
  match cs.takeWhile Char.isDigit, cs.dropWhile Char.isDigit with
  | [], [] => .error .endless
  | [], _ :: _ => .error (.broken .malformed)
  | ds, rest => .ok (ds, rest)

/-- The digits after a point, if there is one. -/
def fraction : List Char → Except (Lexeme Number) (List Char × List Char)
  | '.' :: cs => digitRun cs
  | cs => .ok ([], cs)

/-- The exponent after its letter. -/
def exponentDigits : List Char → Except (Lexeme Number) (Int × List Char)
  | '-' :: cs => (digitRun cs).map (Prod.map (fun ds => -(Decimal.value ds : Int)) id)
  | '+' :: cs => (digitRun cs).map (Prod.map (fun ds => (Decimal.value ds : Int)) id)
  | cs => (digitRun cs).map (Prod.map (fun ds => (Decimal.value ds : Int)) id)

/-- The exponent, if there is one. -/
def exponent : List Char → Except (Lexeme Number) (Option Int × List Char)
  | 'e' :: cs | 'E' :: cs => (exponentDigits cs).map (Prod.map some id)
  | cs => .ok (none, cs)

/-- The number with these parts: an integer if it is written as one, is no negative zero and fits a
word. -/
def Number.ofParts (negative : Bool) (whole frac : List Char) (exp : Option Int)
    (spelling : List Char) : Lexeme Number :=
  let n := Decimal.value whole
  if frac.isEmpty && exp.isNone && !negative && n < UInt64.size then .of (.integer n)
  else if frac.isEmpty && exp.isNone && negative && 0 < n && Int64.minValue.toInt ≤ -n then
    .of (.integer (-n))
  else if Magnitude.isHuge whole frac (exp.getD 0) then ⟨.error .malformed, none⟩
  else .of (.spelled spelling)

/-- The number at the start of the text without its sign, and what follows. -/
def unsignedNumber (negative : Bool) (cs : List Char) :
    Except (Lexeme Number) (Lexeme Number × List Char) :=
  match digitRun cs with
  | .error l => .error l
  | .ok (whole, rest) =>
    if whole.head? = some '0' ∧ 1 < whole.length then .error (.broken .malformed)
    else
      match fraction rest with
      | .error l => .error l
      | .ok (frac, rest) =>
        match exponent rest with
        | .error l => .error l
        | .ok (exp, rest) =>
          let spelling := cs.take (cs.length - rest.length)
          let spelling := if negative then '-' :: spelling else spelling
          .ok (Number.ofParts negative whole frac exp spelling, rest)

/-- The number at the start of the text, and what follows. -/
def number : List Char → Except (Lexeme Number) (Lexeme Number × List Char)
  | '-' :: cs => unsignedNumber true cs
  | cs => unsignedNumber false cs

theorem length_digitRun_lt {cs ds rest : List Char} (h : digitRun cs = .ok (ds, rest)) :
    rest.length < cs.length := by
  have hl := congrArg List.length (List.takeWhile_append_dropWhile (p := Char.isDigit) (l := cs))
  unfold digitRun at h
  split at h
  · simp at h
  · simp at h
  · next hne _ =>
    simp only [Except.ok.injEq, Prod.mk.injEq] at h
    obtain ⟨rfl, rfl⟩ := h
    have : (cs.takeWhile Char.isDigit).length ≠ 0 := by
      intro h0
      have h0 := List.eq_nil_of_length_eq_zero h0
      cases hd : cs.dropWhile Char.isDigit with
      | nil => exact hne h0 hd
      | cons d ds => simp_all
    simp only [List.length_append] at hl
    omega

theorem length_fraction_le {cs ds rest : List Char} (h : fraction cs = .ok (ds, rest)) :
    rest.length ≤ cs.length := by
  unfold fraction at h
  split at h
  · have := length_digitRun_lt h
    simp only [List.length_cons]
    omega
  · simp_all

theorem exists_of_map_fst {ε α β γ : Type} {x : Except ε (α × γ)} {f : α → β} {b : β} {c : γ}
    (h : x.map (Prod.map f id) = .ok (b, c)) : ∃ a, x = .ok (a, c) := by
  cases x with
  | error => simp [Except.map] at h
  | ok r =>
    simp only [Except.map, Prod.map, id, Except.ok.injEq, Prod.mk.injEq] at h
    exact ⟨r.1, by rw [← h.2]⟩

theorem length_exponentDigits_le {cs rest : List Char} {e : Int}
    (h : exponentDigits cs = .ok (e, rest)) : rest.length ≤ cs.length := by
  unfold exponentDigits at h
  split at h <;> obtain ⟨_, h⟩ := exists_of_map_fst h
  · exact Nat.le_succ_of_le (Nat.le_of_lt (length_digitRun_lt h))
  · exact Nat.le_succ_of_le (Nat.le_of_lt (length_digitRun_lt h))
  · exact Nat.le_of_lt (length_digitRun_lt h)

theorem length_exponent_le {cs rest : List Char} {e : Option Int}
    (h : exponent cs = .ok (e, rest)) : rest.length ≤ cs.length := by
  unfold exponent at h
  split at h
  · obtain ⟨_, h⟩ := exists_of_map_fst h
    exact Nat.le_succ_of_le (length_exponentDigits_le h)
  · obtain ⟨_, h⟩ := exists_of_map_fst h
    exact Nat.le_succ_of_le (length_exponentDigits_le h)
  · simp_all

theorem length_unsignedNumber_lt {negative : Bool} {cs rest : List Char} {l : Lexeme Number}
    (h : unsignedNumber negative cs = .ok (l, rest)) : rest.length < cs.length := by
  unfold unsignedNumber at h
  split at h
  · simp at h
  next h₁ =>
  split at h
  · simp at h
  split at h
  · simp at h
  next h₂ =>
  split at h
  · simp at h
  next h₃ =>
  simp only [Except.ok.injEq, Prod.mk.injEq] at h
  have h₁ := length_digitRun_lt h₁
  have h₂ := length_fraction_le h₂
  have h₃ := length_exponent_le h₃
  rw [h.2] at h₃
  omega

theorem length_number_lt {cs rest : List Char} {l : Lexeme Number}
    (h : number cs = .ok (l, rest)) : rest.length < cs.length := by
  unfold number at h
  split at h
  · have := length_unsignedNumber_lt h
    simp only [List.length_cons]
    omega
  · exact length_unsignedNumber_lt h

/-! ## Words -/

/-- What follows the rest of a word. -/
def afterWord : List Char → List Char → Except Fault (List Char)
  | [], cs => .ok cs
  | _ :: _, [] => .error .truncated
  | w :: ws, c :: cs => if c = w then afterWord ws cs else .error .malformed

theorem length_afterWord_le {ws cs rest : List Char} (h : afterWord ws cs = .ok rest) :
    rest.length ≤ cs.length := by
  fun_induction afterWord ws cs <;> simp_all
  omega

/-- The words of JSON, by their first letter: the letters after it, and the value. -/
def word? : Char → Option (List Char × Scalar)
  | 'n' => some (['u', 'l', 'l'], .null)
  | 't' => some (['r', 'u', 'e'], .bool true)
  | 'f' => some (['a', 'l', 's', 'e'], .bool false)
  | _ => none

/-! ## Texts -/

/-- The scalar that starts with `c`, which is no quote, and what follows. -/
def atom (c : Char) (cs : List Char) : Lexeme Scalar × List Char :=
  match word? c with
  | some (ws, s) =>
    match afterWord ws cs with
    | .ok rest => (.of s, rest)
    | .error f => (.broken f, [])
  | none =>
    if c = '-' ∨ c.isDigit then
      match number (c :: cs) with
      | .ok (l, rest) => (l.map .number, rest)
      | .error l => (l.map .number, [])
    else
      (.broken .malformed, [])

theorem length_atom_le (c : Char) (cs : List Char) : (atom c cs).2.length ≤ cs.length := by
  unfold atom
  split
  · split
    · next h => exact length_afterWord_le h
    · exact Nat.zero_le _
  · split
    · split
      · next h => exact Nat.le_of_lt_succ (length_number_lt h)
      · exact Nat.zero_le _
    · exact Nat.zero_le _

/-- The tokens of a text. -/
def tokens : List Char → List Token
  | [] => []
  | c :: cs =>
    if isBlank c then tokens cs
    else if c = '[' then .openArray :: tokens cs
    else if c = ']' then .closeArray :: tokens cs
    else if c = '{' then .openObject :: tokens cs
    else if c = '}' then .closeObject :: tokens cs
    else if c = ',' then .comma :: tokens cs
    else if c = ':' then .colon :: tokens cs
    else if c = '"' then .text (string cs).1 :: tokens (string cs).2
    else .atom (atom c cs).1 :: tokens (atom c cs).2
termination_by cs => cs.length
decreasing_by
  all_goals simp only [List.length_cons, Nat.lt_succ_iff]
  all_goals first
    | exact Nat.le_refl _
    | exact length_string_le cs
    | exact length_atom_le c cs

end CorpusQuery.Json
