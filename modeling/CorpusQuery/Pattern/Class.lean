import CorpusQuery.Pattern.Escape

/-!
# Bracketed classes

A class lists characters, ranges, named sets and further classes in brackets, and combines such
lists by `&&`, `--` and `~~`. Reading one gives the set of its characters, and its height, which
counts towards the limit on nesting. Case is disregarded, where the flags say so, before a set is
combined or complemented.
-/

namespace CorpusQuery.Pattern

/-- The height of a row of things with these heights: a row of several is a level of its own. -/
def rowHeight : List Nat → Nat
  | [] => 0
  | [h] => h
  | hs => hs.foldl max 0 + 1

/-- How two sets are combined. -/
inductive ClassOperator where
  | inter
  | diff
  | symmDiff

def ClassOperator.apply : ClassOperator → Charset → Charset → Charset
  | .inter => .inter
  | .diff => .diff
  | .symmDiff => .symmDiff

/-- What stands before an operator, and the operator. -/
structure Operand where
  height : Nat
  set : Charset
  operator : ClassOperator

/-- A class that is open: what stands before the last operator, and the items after it by their
heights and their common set. -/
structure ClassFrame where
  negated : Bool
  operand : Option Operand := none
  items : List Nat := []
  set : Charset := .empty

namespace ClassFrame

def add (h : Nat) (s : Charset) (frame : ClassFrame) : ClassFrame :=
  { frame with items := h :: frame.items, set := frame.set.union s }

/-- The height of all that stands in the brackets. -/
def height (frame : ClassFrame) : Nat :=
  match frame.operand with
  | none => rowHeight frame.items
  | some o => max o.height (rowHeight frame.items) + 1

/-- The set that is listed in the brackets. -/
def listed (f : Flags) (frame : ClassFrame) : Charset :=
  match frame.operand with
  | none => frame.set
  | some o => o.operator.apply (f.close o.set) (f.close frame.set)

/-- The set that the brackets stand for. -/
def result (f : Flags) (frame : ClassFrame) : Charset :=
  let s := f.close (frame.listed f)
  if frame.negated then s.complement else s

/-- What stands in the brackets becomes an operand. -/
def operate (f : Flags) (op : ClassOperator) (frame : ClassFrame) : ClassFrame where
  negated := frame.negated
  operand := some ⟨frame.height, frame.listed f, op⟩

end ClassFrame

/-- Whether an atom may stand for characters of a class. -/
def Atom.isMember (f : Flags) : Atom → Bool
  | literal c _ => f.unicode || c.toNat < 128
  | set _ wide => f.unicode || !wide
  | look _ => false

/-- Opens a class after its bracket. A complement is too wide for a class without Unicode; the first
hyphens stand for themselves, and so does a closing bracket in the first place. -/
def openClass (f : Flags) (cs : List Char) : Option (ClassFrame × List Char) := do
  let (negated, cs) ← eat '^' (f.skip cs)
  guard (f.unicode || !negated)
  let (hyphens, cs) ← f.span (· == '-') cs
  if !hyphens.isEmpty then
    return ({ negated, items := hyphens.map fun _ => 0, set := .singleton '-' }, cs)
  let (bracket, cs) ← eat ']' cs
  if bracket then
    return ({ negated, items := [0], set := .singleton ']' }, cs)
  return ({ negated }, cs)

/-- The sets of the first 128 characters that have names. -/
def asciiSet? : String → Option Charset
  | "alnum" => some (.ofText "30-39 41-5A 61-7A")
  | "alpha" => some (.ofText "41-5A 61-7A")
  | "ascii" => some (.ofText "0-7F")
  | "blank" => some (.ofText "9 20")
  | "cntrl" => some (.ofText "0-1F 7F")
  | "digit" => some (.ofText "30-39")
  | "graph" => some (.ofText "21-7E")
  | "lower" => some (.ofText "61-7A")
  | "print" => some (.ofText "20-7E")
  | "punct" => some (.ofText "21-2F 3A-40 5B-60 7B-7E")
  | "space" => some (.ofText "9-D 20")
  | "upper" => some (.ofText "41-5A")
  | "word" => some (.ofText "30-39 41-5A 5F 61-7A")
  | "xdigit" => some (.ofText "30-39 41-46 61-66")
  | _ => none

/-- The set that is named up to a colon and the closing bracket, and the text after these. -/
def asciiName? (cs : List Char) : Option (Charset × List Char) := do
  let s ← asciiSet? (String.ofList (cs.takeWhile (· != ':')))
  let (colon, rest) ← eat ':' (cs.dropWhile (· != ':'))
  let (bracket, rest) ← eat ']' rest
  guard (colon ∧ bracket)
  return (s, rest)

/-- A set named between colons, after its opening bracket: whether it is a complement, the set, and
the text after it. -/
def asciiClass? (cs : List Char) : Option ((Bool × Charset) × List Char) := do
  let (named, cs) ← eat ':' cs
  guard named
  let (negated, cs) ← eat '^' cs
  let (s, cs) ← asciiName? cs
  return ((negated, s), cs)

/-- The next character that is no blank, where a hash is passed over like a blank the first time. -/
def peekPastBlank (pastHash : Bool) : List Char → Option Char
  | [] => none
  | c :: cs =>
    if isBlank c then peekPastBlank pastHash cs
    else if c = '#' ∧ !pastHash then peekPastBlank true cs
    else some c

/-- The next character, as it decides whether a hyphen makes a range. -/
def peek (f : Flags) (cs : List Char) : Option Char :=
  if f.verbose then peekPastBlank false cs else cs.head?

/-- Whether the text starts with a hyphen that makes a range, and the text after it if so. A hyphen
before the closing bracket or before another hyphen makes none. -/
def rangeSign (f : Flags) : List Char → Option (Bool × List Char)
  | '-' :: cs =>
    if peek f cs = some ']' ∨ peek f cs = some '-' then some (false, '-' :: cs) else some (true, cs)
  | cs => some (false, cs)

def classAtom (f : Flags) : List Char → Option (Atom × List Char)
  | [] => none
  | c :: cs => if c = '\\' then escape f cs else some (.literal c false, cs)

namespace Atom

/-- The characters that an atom of a class stands for. -/
def charset : Atom → Charset
  | literal c _ => .singleton c
  | set s _ => s
  | look _ => .empty

/-- The characters from one to another. -/
def rangeTo? : Atom → Atom → Option Charset
  | literal c _, literal d _ => if c ≤ d then some (.range c.toNat d.toNat) else none
  | _, _ => none

end Atom

/-- Reads an item of a class, a single one or a range; gives its set and the text after it. -/
def classItem (f : Flags) (cs : List Char) : Option (Charset × List Char) := do
  let (a, cs) ← classAtom f cs
  guard (a.isMember f)
  let (isRange, cs) ← rangeSign f (f.skip cs)
  if isRange then
    let (b, rest) ← classAtom f (f.skip cs)
    guard (b.isMember f)
    return (← a.rangeTo? b, rest)
  else
    return (a.charset, cs)

/-- The operator that a character stands for when it comes twice. -/
def operatorOf? : Char → Option ClassOperator
  | '&' => some .inter
  | '-' => some .diff
  | '~' => some .symmDiff
  | _ => none

/-- Where the reading of a class stands: it has ended, with a height and a set, or a class is open
within others, innermost first. -/
inductive ClassProgress where
  | done (height : Nat) (set : Charset)
  | within (frame : ClassFrame) (outer : List ClassFrame)

/-- Reads what an opening bracket begins within a class: a set named between colons, or a class. -/
def openWithin (f : Flags) (frame : ClassFrame) (outer : List ClassFrame) (cs : List Char) :
    Option (ClassProgress × List Char) :=
  match asciiClass? cs with
  | some ((negated, s), cs) => do
    guard (f.unicode || !negated)
    let s := if negated then (f.close s).complement else f.close s
    return (.within (frame.add 0 s) outer, cs)
  | none => do
    let (inner, cs) ← openClass f cs
    return (.within inner (frame :: outer), cs)

/-- Reads an item or a sign of a class within the classes `outer`, and gives the text after it. -/
def classNext (f : Flags) (frame : ClassFrame) (outer : List ClassFrame) :
    List Char → Option (ClassProgress × List Char)
  | [] => none
  | c :: cs =>
    let item (cs : List Char) : Option (ClassProgress × List Char) := do
      let (s, cs) ← classItem f (c :: cs)
      return (.within (frame.add 0 s) outer, cs)
    if c = '[' then openWithin f frame outer cs
    else if c = ']' then
      match outer with
      | [] => some (.done (frame.height + 1) (frame.result f), cs)
      | up :: outer => some (.within (up.add (frame.height + 1) (frame.result f)) outer, cs)
    else
      match operatorOf? c with
      | some op => do
        let (twice, cs) ← eat c cs
        if twice then return (.within (frame.operate f op) outer, cs) else item cs
      | none => item cs

/-- Reads a class to its end in less than so many steps; gives its height and its set, and the text
after it. -/
def classRest (f : Flags) : Nat → ClassFrame → List ClassFrame → List Char →
    Option ((Nat × Charset) × List Char)
  | 0, _, _, _ => none
  | n + 1, frame, outer, cs => do
    let (p, cs) ← classNext f frame outer (f.skip cs)
    match p with
    | .done h s => return ((h, s), cs)
    | .within frame outer => classRest f n frame outer cs

/-- Reads a class after its opening bracket. Each step takes a character at least, so the length of
the text is enough. -/
def bracketed (f : Flags) (cs : List Char) : Option ((Nat × Charset) × List Char) := do
  let (frame, rest) ← openClass f cs
  classRest f (rest.length + 1) frame [] rest

end CorpusQuery.Pattern
