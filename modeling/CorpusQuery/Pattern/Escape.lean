import CorpusQuery.Pattern.Look
import CorpusQuery.Pattern.Property

/-!
# Single characters of a pattern

What may stand for one character or one place: a literal, an escape, a named set of characters or an
assertion. Under the verbose flag blanks and comments may stand almost anywhere between; under the
flag against Unicode the sets that would hold more than the first 128 characters are refused.
-/

namespace CorpusQuery.Pattern

/-- The flags in force at a place of a pattern. -/
structure Flags where
  verbose : Bool := false
  unicode : Bool := true
  insensitive : Bool := false
  /-- Whether `^` and `$` stand for the ends of lines. -/
  multiline : Bool := false
  /-- Whether a dot stands for the ends of lines too. -/
  dotAll : Bool := false
  swapGreed : Bool := false
  crlf : Bool := false

/-- The characters with the property White_Space. -/
def isBlank (c : Char) : Bool :=
  let n := c.toNat
  (9 ≤ n && n ≤ 13) || n == 0x20 || n == 0x85 || n == 0xA0 || n == 0x1680 ||
    (0x2000 ≤ n && n ≤ 0x200A) || n == 0x2028 || n == 0x2029 || n == 0x202F || n == 0x205F ||
    n == 0x3000

/-- The text after blanks and comments; a comment goes from a hash to the end of the line. -/
def dropBlank (inComment : Bool) : List Char → List Char
  | [] => []
  | c :: cs =>
    if inComment then dropBlank (c != '\n') cs
    else if isBlank c then dropBlank false cs
    else if c = '#' then dropBlank true cs
    else c :: cs

theorem length_dropBlank_le (inComment : Bool) (cs : List Char) :
    (dropBlank inComment cs).length ≤ cs.length := by
  fun_induction dropBlank inComment cs <;> simp_all <;> omega

/-- The text after what the flags allow between two characters. -/
def Flags.skip (f : Flags) (cs : List Char) : List Char :=
  if f.verbose then dropBlank false cs else cs

theorem Flags.length_skip_le (f : Flags) (cs : List Char) : (f.skip cs).length ≤ cs.length := by
  unfold Flags.skip
  split
  · exact length_dropBlank_le false cs
  · exact Nat.le_refl _

/-- Whether the text starts with this character, and the text after it if it does. -/
def eat (d : Char) : List Char → Option (Bool × List Char)
  | [] => some (false, [])
  | c :: cs => if c = d then some (true, cs) else some (false, c :: cs)

/-- The next character, and the text after it. -/
def Flags.next? (f : Flags) (cs : List Char) : Option (Char × List Char) := do
  let c ← (f.skip cs).head?
  return (c, (f.skip cs).tail)

/-- The characters from the start of the text that satisfy `p`, and the text after them. -/
def Flags.span (f : Flags) (p : Char → Bool) (cs : List Char) : Option (List Char × List Char) :=
  match _h : f.skip cs with
  | [] => some ([], [])
  | c :: rest =>
    if p c then (f.span p rest).map fun (ds, rest) => (c :: ds, rest)
    else some ([], c :: rest)
termination_by cs.length
decreasing_by
  have := f.length_skip_le cs
  rw [_h, List.length_cons] at this
  omega

/-- The characters up to a closing brace, and the text after it. -/
def untilBrace (f : Flags) (cs : List Char) : Option (List Char × List Char) :=
  match _h : f.skip cs with
  | [] => none
  | c :: rest =>
    if c = '}' then some ([], rest)
    else (untilBrace f rest).map fun (inner, rest) => (c :: inner, rest)
termination_by cs.length
decreasing_by
  have := f.length_skip_le cs
  rw [_h, List.length_cons] at this
  omega

/-- What stands for one character, or for a place between two. -/
inductive Atom where
  /-- A character; `byte` tells that it is written with two digits of base sixteen. -/
  | literal (c : Char) (byte : Bool)
  /-- A set of characters; `wide` tells that it does not lie within the first 128 by its form. -/
  | set (s : Charset) (wide : Bool)
  | look (l : Look)

/-- Whether the atom may stand outside of brackets. -/
def Atom.isAllowed (f : Flags) : Atom → Bool
  | literal c byte => f.unicode || !byte || c.toNat < 128
  | set _ wide => f.unicode || !wide
  | look _ => true

/-- A set closed under case if the flags ask for it. -/
def Flags.close (f : Flags) (s : Charset) : Charset :=
  if f.insensitive then Folding.close f.unicode s else s

/-! ## Escapes -/

/-- The character with the number that these digits of base sixteen stand for. -/
def hexChar? (ds : List Char) : Option Char := do
  guard (ds ≠ [])
  let n ← Hexadecimal.value? ds
  if n.isValidChar then some (.ofNat n) else none

/-- So many characters, which should be digits of base sixteen, and the text after them. -/
def hexDigits (f : Flags) : Nat → List Char → Option (List Char × List Char)
  | 0, cs => some ([], cs)
  | n + 1, cs => do
    let (c, cs) ← f.next? cs
    let (ds, rest) ← hexDigits f n cs
    return (c :: ds, rest)

/-- The character after a letter that asks for `n` digits, or for digits in braces. -/
def hexEscape (f : Flags) (n : Nat) (cs : List Char) : Option (Atom × List Char) := do
  let (braces, cs) ← eat '{' (f.skip cs)
  let (ds, rest) ← if braces then untilBrace f cs else hexDigits f n cs
  return (.literal (← hexChar? ds) (!braces && n == 2), rest)

/-- A set of characters named by one letter, or in braces. -/
def propertyEscape (f : Flags) (negated : Bool) (cs : List Char) : Option (Atom × List Char) := do
  let atom (s : Charset) : Atom :=
    .set (if negated then (f.close s).complement else f.close s) true
  let (c, cs) ← f.next? cs
  if c = '{' then
    let (name, rest) ← untilBrace f cs
    return (atom (← Property.ofQuery? name), rest)
  else
    guard (c ≠ '\\')
    return (atom (← Property.ofName? [c]), cs)

/-- The set that a letter names: digits, blanks, or what words are made of. -/
def letterSet? (f : Flags) : Char → Option Charset
  | 'd' => some (if f.unicode then Category.members ["nd"] else .ofText "30-39")
  | 's' => some (if f.unicode then Binary.whiteSpace else .ofText "9-D 20")
  | 'w' => some (if f.unicode then Binary.word else .ofText "30-39 41-5A 5F 61-7A")
  | _ => none

/-- The set of a letter, or its complement if the letter is in upper case. -/
def setEscape? (f : Flags) (c : Char) : Option Atom :=
  match letterSet? f c, letterSet? f c.toLower with
  | some s, _ => some (.set s false)
  | none, some s => some (.set s.complement true)
  | none, none => none

/-- The place that a backslash and one letter or sign ask for. -/
def lookEscape? (f : Flags) : Char → Option Look
  | 'A' => some .textStart
  | 'z' => some .textEnd
  | 'B' => some (.word .nowhere f.unicode)
  | '<' => some (.word .start f.unicode)
  | '>' => some (.word .stop f.unicode)
  | _ => none

/-- The character that a backslash and a letter stand for. -/
def letterEscape? : Char → Option Char
  | 'a' => some '\x07'
  | 'f' => some '\x0c'
  | 't' => some '\t'
  | 'n' => some '\n'
  | 'r' => some '\r'
  | 'v' => some '\x0b'
  | _ => none

/-- Whether a backslash lets the character stand for itself. -/
def isSelfEscape (c : Char) : Bool :=
  c.toNat < 128 && !c.isAlphanum && c != '<' && c != '>'

/-- What a backslash and the text after it stand for. Word boundaries, which are written by the
letter `b`, are not read here. -/
def escape (f : Flags) : List Char → Option (Atom × List Char)
  | [] => none
  | c :: cs =>
    if c = 'x' then hexEscape f 2 cs
    else if c = 'u' then hexEscape f 4 cs
    else if c = 'U' then hexEscape f 8 cs
    else if c = 'p' ∨ c = 'P' then propertyEscape f (c = 'P') cs
    else if isSelfEscape c then some (.literal c false, cs)
    else
      (setEscape? f c <|> (lookEscape? f c).map Atom.look <|>
        (letterEscape? c).map (Atom.literal · false)).map (·, cs)

/-- What a dot stands for: all characters, or all that do not end a line. -/
def Flags.dot (f : Flags) : Charset :=
  if f.dotAll then .range 0 Charset.greatest
  else (Charset.ofText (if f.crlf then "A D" else "A")).complement

/-- What a character that is no operator stands for outside of brackets. -/
def Flags.plain (f : Flags) : Char → Atom
  | '.' => .set f.dot true
  | '^' => .look (if f.multiline then .lineStart f.crlf else .textStart)
  | '$' => .look (if f.multiline then .lineEnd f.crlf else .textEnd)
  | c => .literal c false

end CorpusQuery.Pattern
