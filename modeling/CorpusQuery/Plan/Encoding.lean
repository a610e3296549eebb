import CorpusQuery.Json.Basic
import CorpusQuery.Plan.Tag

/-!
# Plans as JSON

A plan is an object that starts with its tag. Sequences and recurrences leave the member for what is
ignored out when they ignore nothing.
-/

namespace CorpusQuery

def Comparison.name : Comparison → String
  | equal => "Equal"
  | less => "Less"
  | lessOrEqual => "LessOrEqual"
  | greater => "Greater"
  | greaterOrEqual => "GreaterOrEqual"

def Comparison.ofName? (s : String) : Option Comparison :=
  [equal, less, lessOrEqual, greater, greaterOrEqual].find? (·.name == s)

theorem Comparison.ofName?_name (c : Comparison) : ofName? c.name = some c := by
  cases c <;> decide

namespace Plan

open Json (text natural integer bool array)

/-- An object that starts with a tag. -/
def tagged (t : Tag) (members : List (String × Json)) : Json :=
  .object ((Tag.key, text t.name) :: members)

mutual

def toJson : Plan → Json
  | .term f l v => tagged .term [("field", text f), ("prefix", text l), ("value", text v)]
  | .annotated f l => tagged .annotated [("field", text f), ("prefix", text l)]
  | .wildcard f l v => tagged .wildcard [("field", text f), ("prefix", text l), ("value", text v)]
  | .regexp f l v => tagged .regexp [("field", text f), ("prefix", text l), ("value", text v)]
  | .expansion f l n vs =>
    tagged .expansion
      [("field", text f), ("prefix", text l), ("name", text n), ("values", array (vs.map text))]
  | .compare f l r b =>
    tagged .compare
      [("field", text f), ("prefix", text l), ("operator", text r.name), ("value", integer b)]
  | .position f a b =>
    tagged .position [("field", text f), ("start", natural a), ("end", natural b)]
  | .everything f => tagged .everything [("field", text f)]
  | .allOf ps => tagged .allOf [("clauses", array (toJsons ps))]
  | .anyOf ps => tagged .anyOf [("clauses", array (toJsons ps))]
  | .without p q => tagged .without [("base", p.toJson), ("exclude", q.toJson)]
  | .sequence is g => tagged .sequence (("items", array (itemsToJson is)) :: ignoreMembers g)
  | .recurrence p a b g =>
    tagged .recurrence
      (("query", p.toJson) :: ("min", natural a) :: ("max", natural b) :: ignoreMembers g)
  | .startOf p => tagged .startOf [("query", p.toJson)]
  | .endOf p => tagged .endOf [("query", p.toJson)]

def toJsons : List Plan → List Json
  | [] => []
  | p :: ps => p.toJson :: toJsons ps

def itemsToJson : List Item → List Json
  | [] => []
  | ⟨p, optional⟩ :: is =>
    .object [("query", p.toJson), ("optional", bool optional)] :: itemsToJson is

def ignoreMembers : Option Ignore → List (String × Json)
  | none => []
  | some ⟨p, n⟩ => [("ignore", .object [("query", p.toJson), ("max_skip_length", natural n)])]

end

def Ignore.toJson (g : Ignore) : Json :=
  .object [("query", g.plan.toJson), ("max_skip_length", natural g.maxSkip)]

end Plan

end CorpusQuery
