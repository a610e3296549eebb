import CorpusQuery.Json.Lexer

/-!
# Texts as trees

A text may go wrong halfway, and what is reported then depends on who reads it: one who looks at the
members in turn may object to the first before meeting a fault in the second. So the tokens of a
text are first arranged as a tree that keeps the faults where they stand (`Tree.ofTokens`), and
readers walk it in the order of the text. Reading a value whole (`Tree.whole`) allows 127 open
containers; passing over it (`Tree.skip`) allows any number. What follows the first value of a text
is not looked at.
-/

namespace CorpusQuery.Json

/-- A value with its faults. A container ends by its bracket, or by a fault. -/
inductive Tree where
  | scalar (l : Lexeme Scalar)
  | array (entries : List Tree) (ending : Option Fault)
  | object (members : List (Lexeme String × Tree)) (ending : Option Fault)

namespace Tree

/-- A fault in the place of a value. -/
def broken (f : Fault) : Tree :=
  .scalar (.broken f)

/-! ## From tokens -/

/-- A container around the place that is reached, with what it holds so far, last first. A `member`
has a key that still awaits its value. -/
inductive Frame where
  | array (entries : List Tree)
  | object (members : List (Lexeme String × Tree))
  | member (members : List (Lexeme String × Tree)) (key : Lexeme String)

namespace Frame

/-- The container with one more value. -/
def add (t : Tree) : Frame → Frame
  | array es => array (t :: es)
  | object ms => object ms
  | member ms k => object ((k, t) :: ms)

/-- The container as it stands when it ends. -/
def close (ending : Option Fault) : Frame → Tree
  | array es => .array es.reverse ending
  | object ms | member ms _ => .object ms.reverse ending

end Frame

/-- What may come next in the innermost container. -/
inductive Place where
  | value
  | valueOrEnd
  | key
  | keyOrEnd
  | colon
  | commaOrEnd

/-- The tree of a text that goes wrong at a place; `frames` are the containers around it, innermost
first. A value that is awaited is the one that is broken, else the container is. -/
def stop (f : Fault) (p : Place) (frames : List Frame) : Tree :=
  match p, frames with
  | .value, _ | .colon, _ | _, [] => outward (broken f) frames
  | _, frame :: frames => outward (frame.close (some f)) frames
where
  outward (t : Tree) (frames : List Frame) : Tree :=
    frames.foldl (fun t frame => (frame.add t).close (some f)) t

/-- The state of the arrangement after a token: a finished tree, or the next place. -/
inductive Progress where
  | done (t : Tree)
  | next (p : Place) (frames : List Frame)

/-- A finished value joins the container around it. -/
def settle (t : Tree) : List Frame → Progress
  | [] => .done t
  | frame :: frames => .next .commaOrEnd (frame.add t :: frames)

def startValue (frames : List Frame) : Token → Progress
  | .openArray => .next .valueOrEnd (.array [] :: frames)
  | .openObject => .next .keyOrEnd (.object [] :: frames)
  | .text l => settle (.scalar (l.map .text)) frames
  | .atom l => settle (.scalar l) frames
  | _ => .done (stop .malformed .value frames)

/-- Takes one token. -/
def step (p : Place) (frames : List Frame) (t : Token) : Progress :=
  match p, t, frames with
  | .value, t, frames => startValue frames t
  | .valueOrEnd, .closeArray, .array es :: frames => settle (.array es.reverse none) frames
  | .valueOrEnd, t, frames => startValue frames t
  | .key, .text k, .object ms :: frames => .next .colon (.member ms k :: frames)
  | .keyOrEnd, .text k, .object ms :: frames => .next .colon (.member ms k :: frames)
  | .keyOrEnd, .closeObject, .object ms :: frames => settle (.object ms.reverse none) frames
  | .colon, .colon, frames => .next .value frames
  | .commaOrEnd, .comma, .array es :: frames => .next .value (.array es :: frames)
  | .commaOrEnd, .comma, .object ms :: frames => .next .key (.object ms :: frames)
  | .commaOrEnd, .closeArray, .array es :: frames => settle (.array es.reverse none) frames
  | .commaOrEnd, .closeObject, .object ms :: frames => settle (.object ms.reverse none) frames
  | p, _, frames => .done (stop .malformed p frames)

/-- Takes tokens until the tree is finished. -/
def arrange (p : Place) (frames : List Frame) : List Token → Tree
  | [] => stop .truncated p frames
  | t :: ts =>
    match step p frames t with
    | .done tree => tree
    | .next p frames => arrange p frames ts

def ofTokens (ts : List Token) : Tree :=
  arrange .value [] ts

/-- The tree of the first value of a text. -/
def ofText (s : String) : Tree :=
  ofTokens (tokens s.toList)

/-! ## Reading and passing over -/

def checkEnding : Option Fault → Except Fault Unit
  | none => .ok ()
  | some f => .error f

mutual

/-- The value, or the first fault in it; `room` is the number of containers that may be opened. -/
def whole (room : Nat) : Tree → Except Fault Json
  | .scalar l => l.read.map .scalar
  | .array es ending =>
    match room with
    | 0 => .error .malformed
    | room + 1 => do
      let es ← wholeEntries room es
      checkEnding ending
      return .array es
  | .object ms ending =>
    match room with
    | 0 => .error .malformed
    | room + 1 => do
      let ms ← wholeMembers room ms
      checkEnding ending
      return .object ms

def wholeEntries (room : Nat) : List Tree → Except Fault (List Json)
  | [] => .ok []
  | t :: ts => do
    let e ← t.whole room
    let es ← wholeEntries room ts
    return e :: es

def wholeMembers (room : Nat) : List (Lexeme String × Tree) → Except Fault (List (String × Json))
  | [] => .ok []
  | (k, t) :: ts => do
    let k ← k.read
    let e ← t.whole room
    let ms ← wholeMembers room ts
    return (k, e) :: ms

end

mutual

/-- The first fault that one meets who passes over the value. -/
def skip : Tree → Except Fault Unit
  | .scalar l => checkEnding l.skip
  | .array es ending => do
    skipEntries es
    checkEnding ending
  | .object ms ending => do
    skipMembers ms
    checkEnding ending

def skipEntries : List Tree → Except Fault Unit
  | [] => .ok ()
  | t :: ts => do
    t.skip
    skipEntries ts

def skipMembers : List (Lexeme String × Tree) → Except Fault Unit
  | [] => .ok ()
  | (k, t) :: ts => do
    checkEnding k.skip
    t.skip
    skipMembers ts

end

end Tree

end CorpusQuery.Json
