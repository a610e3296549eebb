import CorpusQuery.Sentence.Basic

/-!
# Lowering sentences

The plan of a sentence. Every part becomes an item, so that its being optional is kept until a
sequence takes it up; a vacant phrase, an empty alternative and a composite without alternatives
have no plan.
-/

namespace CorpusQuery.Sentence

open Plan (Item Ignore)

/-- The item of one alternative, from the items of its elements. -/
def sequenceItem (ignore : Option Ignore) : List Item → Except Error Item
  | [] => .error (.nothingToLower .sequence)
  | [i] => .ok i
  | is => .ok ⟨.sequence is ignore, is.all (·.optional)⟩

/-- The item of a composite, from the items of its alternatives. -/
def alternationItem (ignore : Option Ignore) : List Item → Except Error Item
  | [] => .error (.nothingToLower .composite)
  | [i] => .ok i
  | is => .ok ⟨.anyOf (is.map (·.toPlan ignore)), false⟩

mutual

def lower (ignore : Option Ignore) : Sentence → Except Error Item
  | .basic p o _ => (p.lower ignore).map (·.repeated ignore o)
  | .composite alts o _ => do
    let is ← lowerAlternatives ignore alts
    let i ← alternationItem ignore is
    return i.repeated ignore o

def lowerAlternatives (ignore : Option Ignore) : List (List Sentence) → Except Error (List Item)
  | [] => .ok []
  | ss :: alts => do
    let is ← lowerSequence ignore ss
    let i ← sequenceItem ignore is
    let rest ← lowerAlternatives ignore alts
    return i :: rest

def lowerSequence (ignore : Option Ignore) : List Sentence → Except Error (List Item)
  | [] => .ok []
  | s :: ss => do
    let i ← s.lower ignore
    let rest ← lowerSequence ignore ss
    return i :: rest

end

def toPlan (ignore : Option Ignore) (s : Sentence) : Except Error Plan :=
  (s.lower ignore).map (·.toPlan ignore)

end CorpusQuery.Sentence
