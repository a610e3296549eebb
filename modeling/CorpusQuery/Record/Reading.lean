import CorpusQuery.Json.Tree
import CorpusQuery.Record.Decoding

/-!
# Records out of texts

The outermost record of a text is read member by member, and the first thing wrong is reported, be
it a fault of the text or a value that does not fit. A plan is more patient: only its tag is looked
at where it stands; the other members are kept until the plan has ended, and then either all fit or
the plan as a whole does not.
-/

namespace CorpusQuery.Record

open Json (Tree Lexeme Fault Problem)
open Plan (Tag)

/-- The same result, with a fault as the problem. -/
def orFault {α : Type} (r : Except Fault α) : Except Problem α :=
  r.mapError .fault

/-- A result that is missing when the value at this place does not fit. -/
def orUnfit {α : Type} : Option α → Except Problem α
  | some a => .ok a
  | none => .error (.unfit [])

/-- The result of a value one step further in. -/
def within {α : Type} (s : Json.Step) (r : Except Problem α) : Except Problem α :=
  r.mapError (Problem.under s)

/-! ## Plans -/

/-- A tag in its place is given by its name only. -/
def readTag : Tree → Except Problem Tag
  | .scalar l => do
    match ← orFault l.read with
    | .text s => orUnfit (Tag.ofName? s)
    | _ => .error (.unfit [])
  | _ => .error (.unfit [])

/-- The tag and the other members, all read whole. A second tag is refused where it stands. -/
def readTagged (room : Nat) (seen : Option Tag) :
    List (Lexeme String × Tree) → Except Problem (Option Tag × List (String × Json))
  | [] => .ok (seen, [])
  | (k, t) :: ts => do
    let k ← orFault k.read
    if k = Tag.key then
      match seen with
      | some _ => .error (.unfit [])
      | none => readTagged room (some (← within (.key k) (readTag t))) ts
    else
      let e ← orFault (t.whole room)
      let (tag, ms) ← readTagged room seen ts
      return (tag, (k, e) :: ms)

/-- A plan, where `room` containers may be opened. -/
def readPlan : Nat → Tree → Except Problem Plan
  | _, .scalar l => do
    let _ ← orFault l.read
    .error (.unfit [])
  | 0, _ => .error (.fault .malformed)
  | room + 1, .object ts ending => do
    let (tag, ms) ← readTagged room none ts
    orFault (Tree.checkEnding ending)
    let tag ← orUnfit tag
    orUnfit ((decodeMembers tag.schema ms).bind (plan? tag))
  | _ + 1, .array [] ending => do
    orFault (Tree.checkEnding ending)
    .error (.unfit [])
  | room + 1, .array (t :: ts) ending => do
    let tag ← within (.entry 0) (readTag t)
    let es ← orFault (Tree.wholeEntries room ts)
    orFault (Tree.checkEnding ending)
    orUnfit ((decodeEntries tag.schema es).bind (plan? tag))

/-! ## Other records -/

/-- A field of an outermost record: a plan or a scalar. -/
def readField (room : Nat) : Kind → Tree → Except Problem Field
  | .plan, t => (readPlan room t).map .plan
  | k, .scalar l => do
    let s ← orFault l.read
    orUnfit (decodeScalar k s)
  | _, _ => .error (.unfit [])

/-- The fields among the members, added to those already found. Members of other names are passed
over. -/
def readMembers (room : Nat) (s : Schema) (found : List (String × Field)) :
    List (Lexeme String × Tree) → Except Problem (List (String × Field))
  | [] => .ok found
  | (k, t) :: ts => do
    let name ← orFault k.read
    match s.kind? name with
    | none =>
      orFault t.skip
      readMembers room s found ts
    | some kind =>
      if found.any (·.1 == name) then
        .error (.unfit [])
      else
        let f ← within (.key name) (readField room kind t)
        readMembers room s (found ++ [(name, f)]) ts

/-- The fields in an array from the entry numbered `i` on. An entry too many is a fault. -/
def readEntries (room : Nat) : Nat → Schema → List Tree → Except Problem (List (String × Field))
  | _, _, [] => .ok []
  | _, [], _ :: _ => .error (.fault .malformed)
  | i, slot :: s, t :: ts => do
    let f ← within (.entry i) (readField room slot.kind t)
    let found ← readEntries room (i + 1) s ts
    return (slot.name, f) :: found

/-- The fields of an outermost record, in the order of its schema. -/
def readRecord (s : Schema) : Nat → Tree → Except Problem (List Field)
  | _, .scalar l => do
    let _ ← orFault l.read
    .error (.unfit [])
  | 0, _ => .error (.fault .malformed)
  | room + 1, .object ts ending => do
    let found ← readMembers room s [] ts
    orFault (Tree.checkEnding ending)
    orUnfit (s.complete found)
  | room + 1, .array ts ending => do
    let found ← readEntries room 0 s ts
    orFault (Tree.checkEnding ending)
    orUnfit (s.complete found)

end CorpusQuery.Record

namespace CorpusQuery

open Record

/-- The number of containers that a text may have open at once. -/
def Json.maxDepth : Nat := 127

namespace Plan

/-- Reads a plan from a text that comes from `source`. -/
def parse (source : Source) (s : String) : Except Error Plan :=
  (readPlan Json.maxDepth (.ofText s)).mapError (.unreadable source false)

/-- Reads what is ignored from a text that comes from `source`. -/
def Ignore.parse (source : Source) (s : String) : Except Error Ignore :=
  Except.mapError (.unreadable source false) do
    orUnfit (Ignore.build? (← readRecord Ignore.schema Json.maxDepth (.ofText s)))

end Plan

end CorpusQuery
