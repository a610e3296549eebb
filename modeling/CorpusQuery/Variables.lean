import CorpusQuery.Plan.Basic

/-!
# Variables

Names that stand for lists of values. Each may be used once in a query; `reset` starts the next
query.
-/

namespace CorpusQuery

structure Variables where
  /-- Each defined name once, with its values. -/
  definitions : List (String × List String) := []
  /-- The names that the query has used. -/
  used : List String := []

namespace Variables

/-- Defines a name, in place of an earlier definition. -/
def insert (v : Variables) (name : String) (values : List String) : Variables :=
  { v with definitions := (name, values) :: v.definitions.filter (·.1 != name) }

def get? (v : Variables) (name : String) : Option (List String) :=
  v.definitions.lookup name

def contains (v : Variables) (name : String) : Bool :=
  (v.get? name).isSome

def isUsed (v : Variables) (name : String) : Bool :=
  v.used.contains name

def size (v : Variables) : Nat :=
  v.definitions.length

def reset (v : Variables) : Variables :=
  { v with used := [] }

/-- Uses a variable: an atom with its values. The name must be defined and not yet used. -/
def expand (v : Variables) (field layer name : String) : Except Error (Plan × Variables) :=
  match v.get? name with
  | none => .error (.undefinedVariable name)
  | some values =>
    if v.isUsed name then .error (.variableReused name)
    else .ok (.expansion field layer name values, { v with used := name :: v.used })

end Variables

end CorpusQuery
