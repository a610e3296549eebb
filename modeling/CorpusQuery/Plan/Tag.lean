import CorpusQuery.Plan.Basic

/-!
# Tags

The fifteen kinds of plan, with the name by which JSON tells them apart. A name belongs to one tag
only (`Tag.ofName?_name`); inside a plan a tag may also be given by its place in the list
(`Tag.ofIndex?`).
-/

namespace CorpusQuery

inductive Plan.Tag where
  | term
  | annotated
  | wildcard
  | regexp
  | expansion
  | compare
  | position
  | everything
  | allOf
  | anyOf
  | without
  | sequence
  | recurrence
  | startOf
  | endOf
  deriving DecidableEq

namespace Plan

namespace Tag

/-- The member of an object that holds its tag. -/
def key : String := "@type"

def name : Tag → String
  | term => "Term"
  | annotated => "Prefix"
  | wildcard => "Wildcard"
  | regexp => "Regexp"
  | expansion => "Variable"
  | compare => "Operator"
  | position => "Position"
  | everything => "All"
  | allOf => "And"
  | anyOf => "Or"
  | without => "Not"
  | sequence => "Sequence"
  | recurrence => "Recurrence"
  | startOf => "Start"
  | endOf => "End"

def all : List Tag :=
  [term, annotated, wildcard, regexp, expansion, compare, position, everything, allOf, anyOf,
    without, sequence, recurrence, startOf, endOf]

def ofName? (s : String) : Option Tag :=
  all.find? (·.name == s)

def ofIndex? (n : Nat) : Option Tag :=
  all[n]?

theorem mem_all (t : Tag) : t ∈ all := by cases t <;> decide

theorem ofName?_name (t : Tag) : ofName? t.name = some t := by cases t <;> decide

end Tag

def tag : Plan → Tag
  | .term .. => .term
  | .annotated .. => .annotated
  | .wildcard .. => .wildcard
  | .regexp .. => .regexp
  | .expansion .. => .expansion
  | .compare .. => .compare
  | .position .. => .position
  | .everything .. => .everything
  | .allOf .. => .allOf
  | .anyOf .. => .anyOf
  | .without .. => .without
  | .sequence .. => .sequence
  | .recurrence .. => .recurrence
  | .startOf .. => .startOf
  | .endOf .. => .endOf

end Plan

end CorpusQuery
