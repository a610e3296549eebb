/-!
# Artifacts

The kinds of value that are written as JSON, each with a label for messages and the names it may be
asked for by.
-/

namespace CorpusQuery

inductive Artifact where
  | settings
  | plan
  | item
  | ignore
  deriving DecidableEq

namespace Artifact

def label : Artifact → String
  | settings => "Config"
  | plan => "SpanQuery"
  | item => "SequenceItem"
  | ignore => "IgnoreClause"

/-- The kind of a given name: its label, the label in lower case, or a short form. -/
def ofName? (name : String) : Option Artifact :=
  match name with
  | "Config" | "config" => some settings
  | "SpanQuery" | "spanquery" | "query" => some plan
  | "SequenceItem" | "sequenceitem" => some item
  | "IgnoreClause" | "ignoreclause" | "ignore" => some ignore
  | _ => none

theorem ofName?_label (a : Artifact) : ofName? a.label = some a := by cases a <;> rfl

end Artifact

end CorpusQuery
