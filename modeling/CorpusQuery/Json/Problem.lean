/-!
# What goes wrong in reading JSON

A text fails as JSON (`Fault`), or it holds a value of the wrong shape; then the problem names the
place by the steps that lead to it (`Problem.unfit`).
-/

namespace CorpusQuery.Json

/-- Why a text is no JSON value. -/
inductive Fault where
  /-- The text departs from the grammar. -/
  | malformed
  /-- The text ends inside the value. -/
  | truncated
  deriving DecidableEq

/-- A step into a value, by entry number or by key. -/
inductive Step where
  | entry (index : Nat)
  | key (name : String)
  deriving DecidableEq

/-- The steps joined by dots, without a dot before a bracketed number; a lone dot for no step. -/
def pathText : List Step → String
  | [] => "."
  | s :: rest => stepText s ++ String.join (rest.map tailText)
where
  stepText : Step → String
    | .entry i => s!"[{i}]"
    | .key k => k
  tailText : Step → String
    | .entry i => s!"[{i}]"
    | .key k => "." ++ k

/-- Why no value could be read. -/
inductive Problem where
  | fault (f : Fault)
  /-- The value found by these steps is not what belongs there. -/
  | unfit (path : List Step)
  /-- The text itself could not be had. -/
  | noText
  deriving DecidableEq

namespace Problem

/-- The same problem, seen from one step further out. -/
def under (s : Step) : Problem → Problem
  | unfit path => unfit (s :: path)
  | p => p

end Problem

end CorpusQuery.Json
