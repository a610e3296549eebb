import CorpusQuery.Plan.Basic

/-!
# Plans in one line

The short form in which messages show a plan: values in quotes, patterns between slashes, positions
after a hash, and the names of the operators in capitals. A field is not shown.
-/

namespace CorpusQuery.Plan

def commaSeparated : List String → String
  | [] => ""
  | s :: rest => rest.foldl (· ++ ", " ++ ·) s

mutual

def text : Plan → String
  | .term _ l v => s!"{l}=\"{v}\""
  | .annotated _ l => l
  | .wildcard _ l v => s!"{l}~\"{v}\""
  | .regexp _ l v => s!"{l}=/{v}/"
  | .expansion _ l n _ => s!"{l}=${n}"
  | .compare _ l r b => s!"{l}{r.symbol}{b}"
  | .position _ a b => s!"#{a}-{b}"
  | .everything _ => "[]"
  | .allOf ps => s!"AND({commaSeparated (texts ps)})"
  | .anyOf ps => s!"OR({commaSeparated (texts ps)})"
  | .without p q => s!"NOT({p.text}, {q.text})"
  | .sequence is g => s!"SEQ({commaSeparated (itemTexts is)}{ignoreText g})"
  | .recurrence p a b g => s!"REC({p.text}, {a}, {b}{ignoreText g})"
  | .startOf p => s!"START({p.text})"
  | .endOf p => s!"END({p.text})"

def texts : List Plan → List String
  | [] => []
  | p :: ps => p.text :: texts ps

def itemTexts : List Item → List String
  | [] => []
  | ⟨p, optional⟩ :: is => (p.text ++ if optional then "?" else "") :: itemTexts is

def ignoreText : Option Ignore → String
  | none => ""
  | some ⟨p, n⟩ => s!" | ignore {p.text}\x7b0,{n}\x7d"

end

/-- The plan with the number of tokens that may be skipped in a row. -/
def Ignore.text (g : Ignore) : String :=
  s!"{g.plan.text}\x7b0,{g.maxSkip}\x7d"

end CorpusQuery.Plan
