import CorpusQuery.Decimal
import CorpusQuery.Pattern.Automaton
import CorpusQuery.Pattern.Class
import CorpusQuery.Pattern.Letter
import CorpusQuery.Plan.Basic

/-!
# Patterns

Which texts are regular expressions. A text is read from left to right, group by group, and becomes
a tree with the height at which its parts are nested. How its signs are written, and how large its
tree may be, is a matter of the compiler (`Pattern.Dialect`). A pattern of the search language is
compiled between anchors, as it will be matched against whole values (`Plan.ofPatternWith`).
-/

namespace CorpusQuery.Pattern

/-- A part of a pattern that has been read. -/
structure Piece where
  height : Nat
  node : Node

namespace Piece

/-- Pieces one after the other. -/
def ofRow (ps : List Piece) : Piece :=
  ⟨rowHeight (ps.map (·.height)), .ofRow (ps.map (·.node))⟩

/-- Pieces that are alternatives to each other. -/
def ofChoice (ps : List Piece) : Piece :=
  ⟨rowHeight (ps.map (·.height)), .ofChoice (ps.map (·.node))⟩

def quantified (min : Nat) (max : Option Nat) (greedy : Bool) (p : Piece) : Piece :=
  ⟨p.height + 1, .quantified min max greedy p.node⟩

/-- A character or a place. Under the flag for it a letter stands for its orbit. -/
def ofAtom (f : Flags) : Atom → Piece
  | .literal c _ => ⟨0, .ofSet f.unicode (f.close (.singleton c))⟩
  | .set s _ => ⟨0, .ofSet f.unicode s⟩
  | .look l => ⟨0, .look l⟩

end Piece

/-- A group that is open, the whole pattern included. -/
structure Level where
  /-- The flags in force within the group. -/
  flags : Flags
  /-- Whether it is noted what the group matches. -/
  captures : Bool := false
  /-- The alternatives that are finished, last first. -/
  finished : List Piece := []
  /-- The parts of the current alternative, last first; `none` for a part that sets flags, which
  cannot be repeated. -/
  parts : List (Option Piece) := []

namespace Level

def add (p : Option Piece) (l : Level) : Level :=
  { l with parts := p :: l.parts }

/-- All alternatives, last first. -/
def alternatives (l : Level) : List Piece :=
  .ofRow (l.parts.reverse.map (·.getD ⟨0, .empty⟩)) :: l.finished

/-- Starts another alternative. -/
def alternate (l : Level) : Level :=
  { l with finished := l.alternatives, parts := [] }

/-- All that has been read in the group. -/
def whole (l : Level) : Piece :=
  .ofChoice l.alternatives.reverse

/-- The group as a part of what is around it. -/
def close (l : Level) : Piece :=
  let p := l.whole
  ⟨p.height + 1, if l.captures then .capture p.node else p.node⟩

/-- Repeats the last part, if there is one to repeat. -/
def repeated (min : Nat) (max : Option Nat) (lazily : Bool) (l : Level) : Option Level :=
  match l.parts with
  | some p :: parts =>
    some { l with parts := some (p.quantified min max (lazily == l.flags.swapGreed)) :: parts }
  | _ => none

end Level

/-! ## Counts -/

/-- The text after blanks, which may stand around counts under any flags, and, where the flags allow
them, comments. -/
def Flags.skipBlank (f : Flags) (cs : List Char) : List Char :=
  if f.verbose then dropBlank false cs else cs.dropWhile isBlank

/-- A count, with blanks around it, and the text after it. It must fit a word of 32 bits. -/
def count (f : Flags) (cs : List Char) : Option (Nat × List Char) := do
  let (ds, rest) ← f.span Char.isDigit (f.skipBlank cs)
  guard (ds ≠ [] ∧ Decimal.value ds < UInt32.size)
  return (Decimal.value ds, f.skipBlank rest)

/-- A range of counts after its opening brace, and the text after it. -/
def countRange (f : Flags) (cs : List Char) : Option ((Nat × Option Nat) × List Char) := do
  let (lo, cs) ← count f cs
  let (comma, cs) ← eat ',' cs
  let (closed, cs) ← eat '}' (f.skip cs)
  if closed then
    return ((lo, if comma then none else some lo), cs)
  else
    guard comma
    let (hi, cs) ← count f cs
    let (closed, cs) ← eat '}' cs
    guard (closed ∧ lo ≤ hi)
    return ((lo, some hi), cs)

/-- The counts of a repetition that is one sign. -/
def signCounts? : Char → Option (Nat × Option Nat)
  | '?' => some (0, some 1)
  | '*' => some (0, none)
  | '+' => some (1, none)
  | _ => none

/-! ## Boundaries -/

/-- What the names of word boundaries are made of. -/
def isBoundaryLetter (c : Char) : Bool :=
  c.isAlpha || c == '-'

/-- What braces after a word boundary may say. -/
def boundaryOfName? (name : List Char) : Option Boundary :=
  match String.ofList name with
  | "start" => some .start
  | "end" => some .stop
  | "start-half" => some .startHalf
  | "end-half" => some .stopHalf
  | _ => none

/-! ## Groups -/

/-- What an opening parenthesis begins. -/
inductive Opening where
  | group (flags : Flags) (captures : Bool)
  | named (flags : Flags) (name : List Char)
  /-- The parentheses only set flags for the rest of the group around them. -/
  | setting (flags : Flags)

/-- Whether a flag is set by these items: those after a hyphen are cleared, and one that is not
there stays as it is. -/
def flagState (letter : Char) (before : Bool) (items : List Char) : Bool :=
  if (items.takeWhile (· != '-')).contains letter then true
  else if items.contains letter then false
  else before

/-- The flags after these items. Each item is a letter of a flag or one hyphen, comes once, and the
hyphen is not the last. -/
def Flags.change (f : Flags) (items : List Char) : Option Flags :=
  if items.all (['i', 'm', 's', 'U', 'u', 'R', 'x', '-'].contains ·) && items.Nodup &&
      items.getLast? != some '-' then
    some {
      verbose := flagState 'x' f.verbose items
      unicode := flagState 'u' f.unicode items
      insensitive := flagState 'i' f.insensitive items
      multiline := flagState 'm' f.multiline items
      dotAll := flagState 's' f.dotAll items
      swapGreed := flagState 'U' f.swapGreed items
      crlf := flagState 'R' f.crlf items
    }
  else
    none

/-- Whether a character may stand in the name of a group. -/
def isNameChar (first : Bool) (c : Char) : Bool :=
  c == '_' || isLetter c ||
    (!first && (isNumeral c || c == '.' || c == '[' || c == ']'))

/-- Whether a group may have this name. -/
def isGroupName : List Char → Bool
  | [] => false
  | c :: cs => isNameChar true c && cs.all (isNameChar false)

/-- A name up to its closing bracket, and the text after it. -/
def groupName (cs : List Char) : Option (List Char × List Char) := do
  let name := cs.takeWhile (· != '>')
  guard (isGroupName name)
  let (closed, rest) ← eat '>' (cs.dropWhile (· != '>'))
  guard closed
  return (name, rest)

/-- Whether the character ends a list of flags. -/
def endsFlags (c : Char) : Bool :=
  c == ':' || c == ')'

/-- Reads flags up to a colon, which begins a group, or up to the closing parenthesis. -/
def flagItems (f : Flags) (cs : List Char) : Option (Opening × List Char) := do
  let items := cs.takeWhile (!endsFlags ·)
  let f ← f.change items
  let (colon, rest) ← eat ':' (cs.dropWhile (!endsFlags ·))
  if colon then
    return (.group f false, rest)
  let (closed, rest) ← eat ')' rest
  guard (closed ∧ items ≠ [])
  return (.setting f, rest)

/-- Reads what follows an opening parenthesis. Nothing may look ahead or behind: the signs for it
are neither flags nor names. -/
def opening (f : Flags) (cs : List Char) : Option (Opening × List Char) := do
  let (special, cs) ← eat '?' (f.skip cs)
  if !special then
    return (.group f true, cs)
  let (letter, cs) ← eat 'P' cs
  let (angle, cs) ← eat '<' cs
  if angle then
    let (name, rest) ← groupName cs
    return (.named f name, rest)
  guard (!letter)
  flagItems f cs

/-! ## Signs -/

/-- What is read at once: a part, or a sign for what becomes of parts. -/
inductive Sign where
  | opening (o : Opening)
  | closing
  /-- Another alternative follows. -/
  | bar
  | part (p : Piece)
  /-- How often a part is repeated; without a part of its own, the last one. -/
  | repetition (p : Option Piece) (min : Nat) (max : Option Nat) (lazily : Bool)

/-- An atom as a part, if it may stand outside of brackets. -/
def Flags.part? (f : Flags) (a : Atom) : Option Sign := do
  guard (a.isAllowed f)
  return .part (.ofAtom f a)

/-- A repetition, lazy if a question mark comes next; and the text after it. -/
def repetition (p : Option Piece) (min : Nat) (max : Option Nat) (cs : List Char) :
    Option (Sign × List Char) := do
  let (lazily, cs) ← eat '?' cs
  return (.repetition p min max lazily, cs)

/-- Reads how often a part is repeated, after an opening brace. -/
def counted (f : Flags) (p : Option Piece) (cs : List Char) : Option (Sign × List Char) := do
  let ((lo, hi), cs) ← countRange f cs
  repetition p lo hi (f.skip cs)

def Flags.boundary (f : Flags) (b : Boundary) : Piece :=
  .ofAtom f (.look (.word b f.unicode))

/-- Reads what braces after a word boundary say: more of the boundary, or, if they start with
neither a letter nor a hyphen, a count. -/
def boundaryBraces (f : Flags) (cs : List Char) : Option (Sign × List Char) :=
  if cs.head?.any isBoundaryLetter then do
    let (name, cs) ← f.span isBoundaryLetter cs
    let (closed, cs) ← eat '}' cs
    guard closed
    return (.part (f.boundary (← boundaryOfName? name)), cs)
  else
    counted f (some (f.boundary .anywhere)) cs

/-- Reads the rest of a word boundary. -/
def boundaryRest (f : Flags) (cs : List Char) : Option (Sign × List Char) := do
  let (braces, cs) ← eat '{' cs
  if braces then boundaryBraces f (f.skip cs) else return (.part (f.boundary .anywhere), cs)

/-- Reads a part or a sign; gives the text after it. -/
def sign (f : Flags) : List Char → Option (Sign × List Char)
  | [] => none
  | c :: cs =>
    if c = '(' then do
      let (o, cs) ← opening f cs
      return (.opening o, cs)
    else if c = ')' then some (.closing, cs)
    else if c = '|' then some (.bar, cs)
    else if c = '[' then do
      let ((h, s), cs) ← bracketed f cs
      return (.part ⟨h, .ofSet f.unicode s⟩, cs)
    else if c = '{' then counted f none cs
    else if c = '\\' then do
      let (boundary, cs) ← eat 'b' cs
      if boundary then boundaryRest f cs
      else
        let (a, cs) ← escape f cs
        return (← f.part? a, cs)
    else
      match signCounts? c with
      | some (lo, hi) => repetition none lo hi cs
      | none => (f.part? (f.plain c)).map (·, cs)

/-! ## The whole -/

/-- Where the reading of a pattern stands: the names of groups so far, the innermost open group, and
the groups around it, innermost first. -/
structure Reading where
  names : List (List Char) := []
  level : Level := { flags := {} }
  outer : List Level := []

namespace Reading

def flags (r : Reading) : Flags :=
  r.level.flags

/-- What an opening parenthesis begins; a name may begin only one group. -/
def begin? (r : Reading) : Opening → Option Reading
  | .setting f => some { r with level := { r.level.add none with flags := f } }
  | .group f captures =>
    some { r with level := { flags := f, captures }, outer := r.level :: r.outer }
  | .named f name =>
    if r.names.contains name then none
    else
      some {
        names := name :: r.names
        level := { flags := f, captures := true }
        outer := r.level :: r.outer }

/-- Closes the innermost group, which must not be the whole. -/
def close? (r : Reading) : Option Reading :=
  match r.outer with
  | [] => none
  | up :: outer => some { r with level := up.add (some r.level.close), outer }

/-- The reading after a part or a sign. -/
def after? (r : Reading) : Sign → Option Reading
  | .opening o => r.begin? o
  | .closing => r.close?
  | .bar => some { r with level := r.level.alternate }
  | .part p => some { r with level := r.level.add (some p) }
  | .repetition p min max lazily => do
    let level := if p.isSome then r.level.add p else r.level
    return { r with level := ← level.repeated min max lazily }

/-- What has been read, if no group is open. -/
def whole? (r : Reading) : Option Piece :=
  if r.outer.isEmpty then some r.level.whole else none

end Reading

/-- What compilers of patterns may differ in. -/
structure Dialect where
  /-- How a part or a sign is read under some flags; gives the text after it too. -/
  sign : Flags → List Char → Option (Sign × List Char)
  /-- The limit on nesting. -/
  maxHeight : Nat
  /-- Whether the automata of a tree are not too large. -/
  isAffordable : Node → Bool

namespace Dialect

/-- Reads on to the end of the text in less than so many steps. -/
def read (d : Dialect) : Nat → Reading → List Char → Option Reading
  | 0, _, _ => none
  | n + 1, r, cs =>
    match r.flags.skip cs with
    | [] => some r
    | c :: cs => do
      let (s, rest) ← d.sign r.flags (c :: cs)
      d.read n (← r.after? s) rest

/-- Where the reading stands at the end of the text. Each step takes a character at least. -/
def ending? (d : Dialect) (r : Reading) (cs : List Char) : Option Reading :=
  d.read (cs.length + 1) r cs

/-- The whole at the end of the text. -/
def toEnd (d : Dialect) (r : Reading) (cs : List Char) : Option Piece := do
  (← d.ending? r cs).whole?

/-- The piece that a text is, however high and large. -/
def piece? (d : Dialect) (cs : List Char) : Option Piece :=
  d.toEnd {} cs

/-- Whether a piece is within the limits. -/
def allows (d : Dialect) (p : Piece) : Bool :=
  p.height ≤ d.maxHeight && d.isAffordable p.node

/-- Whether a text is a pattern within the limits. -/
def compiles (d : Dialect) (s : String) : Bool :=
  (d.piece? s.toList).any d.allows

/-- The signs of this file, with the limits that are set where nobody asks for others. -/
def standard : Dialect where
  sign := Pattern.sign
  maxHeight := 250
  isAffordable := Node.isAffordable

end Dialect

/-- A pattern between two anchors, which matches whole values. -/
def anchored (pattern : String) : String :=
  "^(?:" ++ pattern ++ ")$"

end CorpusQuery.Pattern

namespace CorpusQuery.Plan

/-- Tokens whose value matches a pattern, which must compile between anchors. -/
def ofPatternWith (compiles : String → Bool) (field layer pattern : String) : Except Error Plan :=
  if compiles (Pattern.anchored pattern) then .ok (.regexp field layer pattern)
  else .error (.badPattern pattern)

/-- Tokens whose value matches a pattern of the standard dialect. -/
def ofPattern (field layer pattern : String) : Except Error Plan :=
  ofPatternWith Pattern.Dialect.standard.compiles field layer pattern

end CorpusQuery.Plan
