/-!
# JSON values

A value is a scalar, an array or an object; an object is the list of its members in the order of the
text, so that a key may come twice. A number that is written as an integer and fits a word of 64
bits, signed or unsigned, is that integer; any other keeps its spelling.
-/

namespace CorpusQuery

namespace Json

inductive Number where
  | integer (value : Int)
  | spelled (chars : List Char)
  deriving DecidableEq

inductive Scalar where
  | null
  | bool (value : Bool)
  | number (value : Number)
  | text (value : String)
  deriving DecidableEq

end Json

inductive Json where
  | scalar (value : Json.Scalar)
  | array (entries : List Json)
  | object (members : List (String × Json))

namespace Json

def null : Json := .scalar .null

def bool (b : Bool) : Json := .scalar (.bool b)

def text (s : String) : Json := .scalar (.text s)

def natural (n : UInt64) : Json := .scalar (.number (.integer n.toNat))

def integer (n : Int64) : Json := .scalar (.number (.integer n.toInt))

mutual

/-- How many containers are open at the deepest place. -/
def depth : Json → Nat
  | .scalar _ => 0
  | .array es => depthEntries es + 1
  | .object ms => depthMembers ms + 1

def depthEntries : List Json → Nat
  | [] => 0
  | e :: es => max e.depth (depthEntries es)

def depthMembers : List (String × Json) → Nat
  | [] => 0
  | (_, e) :: ms => max e.depth (depthMembers ms)

end

end Json

end CorpusQuery
