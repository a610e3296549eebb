import CorpusQuery.Record.Schema

/-!
# Records out of JSON

A record is read from an object, in which members of other names do not count and no field may come
twice, or from an array of its fields in order, of which the last may be missing if they have
defaults. A plan is told by its tag: the member `@type`, or the first entry. All that does not fit
gives `none`.
-/

namespace CorpusQuery.Record

open Plan (Tag)

def word? (i : Int) : Option UInt64 :=
  if 0 ≤ i ∧ i < UInt64.size then some (.ofNat i.toNat) else none

def signedWord? (i : Int) : Option Int64 :=
  if Int64.minValue.toInt ≤ i ∧ i ≤ Int64.maxValue.toInt then some (.ofInt i) else none

def text? : Json → Option String
  | .scalar (.text s) => some s
  | _ => none

/-- A tag is given by its name, or by its place among the tags. -/
def tag? : Json → Option Tag
  | .scalar (.text s) => Tag.ofName? s
  | .scalar (.number (.integer i)) => if 0 ≤ i then Tag.ofIndex? i.toNat else none
  | _ => none

/-- The tag among the members of an object, which must be there once. -/
def tagOf? (members : List (String × Json)) : Option Tag :=
  match members.filter (·.1 == Tag.key) with
  | [(_, e)] => tag? e
  | _ => none

/-- Whether a value can stand for nothing: null, or an object without members. -/
def isUnit : Json → Bool
  | .scalar .null => true
  | .object [] => true
  | _ => false

/-- The value of a field, if it is a scalar. -/
def decodeScalar : Kind → Json.Scalar → Option Field
  | .flag, .bool b => some (.flag b)
  | .count, .number (.integer i) => (word? i).map .count
  | .integer, .number (.integer i) => (signedWord? i).map .integer
  | .text, .text s => some (.text s)
  | .optionalText, .null => some (.optionalText none)
  | .optionalText, .text s => some (.optionalText (some s))
  | .comparison, .text s => (Comparison.ofName? s).map .comparison
  | .ignore, .null => some (.ignore none)
  | _, _ => none

/-- The plan of this kind, from the fields that were found. -/
def plan? (t : Tag) (found : List (String × Field)) : Option Plan :=
  (t.schema.complete found).bind t.build?

def item? (found : List (String × Field)) : Option Plan.Item :=
  (Plan.Item.schema.complete found).bind Plan.Item.build?

def ignore? (found : List (String × Field)) : Option Plan.Ignore :=
  (Plan.Ignore.schema.complete found).bind Plan.Ignore.build?

mutual

def decode : Kind → Json → Option Field
  | k, .scalar s => decodeScalar k s
  | .texts, .array es => (es.mapM text?).map .texts
  | .comparison, .object [(s, e)] =>
    if isUnit e then (Comparison.ofName? s).map .comparison else none
  | .plan, .object ms => do
    let t ← tagOf? ms
    let found ← decodeMembers t.schema ms
    return .plan (← plan? t found)
  | .plan, .array (e :: es) => do
    let t ← tag? e
    let found ← decodeEntries t.schema es
    return .plan (← plan? t found)
  | .plans, .array es => (decodePlans es).map .plans
  | .items, .array es => (decodeItems es).map .items
  | .ignore, .object ms => do
    let found ← decodeMembers Plan.Ignore.schema ms
    return .ignore (← ignore? found)
  | .ignore, .array es => do
    let found ← decodeEntries Plan.Ignore.schema es
    return .ignore (← ignore? found)
  | _, _ => none

def decodePlans : List Json → Option (List Plan)
  | [] => some []
  | e :: es =>
    match decode .plan e with
    | some (.plan p) => (decodePlans es).map (p :: ·)
    | _ => none

def decodeItems : List Json → Option (List Plan.Item)
  | [] => some []
  | .object ms :: es => do
    let i ← item? (← decodeMembers Plan.Item.schema ms)
    return i :: (← decodeItems es)
  | .array fs :: es => do
    let i ← item? (← decodeEntries Plan.Item.schema fs)
    return i :: (← decodeItems es)
  | .scalar _ :: _ => none

/-- The fields that are found among the members of an object. -/
def decodeMembers (s : Schema) : List (String × Json) → Option (List (String × Field))
  | [] => some []
  | (name, e) :: ms =>
    match s.kind? name with
    | none => decodeMembers s ms
    | some k => do
      let f ← decode k e
      return (name, f) :: (← decodeMembers s ms)

/-- The fields that are found in an array, which has no entry too many. -/
def decodeEntries : Schema → List Json → Option (List (String × Field))
  | _, [] => some []
  | [], _ :: _ => none
  | slot :: s, e :: es => do
    let f ← decode slot.kind e
    return (slot.name, f) :: (← decodeEntries s es)

end

end CorpusQuery.Record
