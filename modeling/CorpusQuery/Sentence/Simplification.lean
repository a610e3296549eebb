import CorpusQuery.Sentence.Basic

/-!
# Simplifying sentences

A simplified sentence is as flat as it can be made: phrases merge their equal neighbours, and
phrases that stand next to each other become one; a single alternative that stands once dissolves
into the sequence around it, and a lone alternation into the alternatives around it; a composite
that holds one sentence only is replaced by it. Simplifying again changes nothing, as the flag
tells.
-/

namespace CorpusQuery.Sentence

mutual

/-- The sentences that this one brings into a sequence: those of its single alternative, if it
stands once and the alternative is not empty, and else itself. -/
def spliced : Sentence → List Sentence
  | .composite [s :: ss] o b =>
    if o.isOnce then s.spliced ++ splicedAll ss else [.composite [s :: ss] o b]
  | s => [s]

def splicedAll : List Sentence → List Sentence
  | [] => []
  | s :: ss => s.spliced ++ splicedAll ss

end

/-- One phrase for two neighbours, if both are phrases with elements that stand once. -/
def fuse (s t : Sentence) : Option Sentence :=
  match s, t with
  | .basic p o b, .basic q _ _ =>
    if s.isFusable && t.isFusable then some (.basic (p.fuse q) o b) else none
  | _, _ => none

/-- A sequence of simplified sentences, made flat. -/
def compact (ss : List Sentence) : List Sentence :=
  Neighbours.merge fuse (splicedAll ss)

/-- The alternatives that an alternative brings in: those of a lone composite that stands once and
has any, and else itself. -/
def flattened : List Sentence → List (List Sentence)
  | [.composite (alt :: alts) o b] =>
    if o.isOnce then alt :: alts else [[.composite (alt :: alts) o b]]
  | alt => [alt]

/-- Alternatives of simplified sentences, made flat if there are several. -/
def flatten (alts : List (List Sentence)) : List (List Sentence) :=
  if 1 < alts.length then alts.flatMap flattened else alts

/-- The simplified composite. One that holds a single sentence is that sentence, if only one of the
two has an occurrence to keep. -/
def collapse (alts : List (List Sentence)) (o : Occurrence) : Sentence :=
  match alts with
  | [[s]] =>
    if o.isOnce then s
    else if s.occurrence.isOnce then s.occurring o
    else .composite [[s]] o true
  | alts => .composite alts o true

mutual

def simplify : Sentence → Sentence
  | .basic p o b => if b then .basic p o b else .basic p.simplify o true
  | .composite alts o b =>
    if b then .composite alts o b else collapse (flatten (simplifyAlternatives alts)) o

def simplifyAlternatives : List (List Sentence) → List (List Sentence)
  | [] => []
  | ss :: alts => compact (simplifySequence ss) :: simplifyAlternatives alts

def simplifySequence : List Sentence → List Sentence
  | [] => []
  | s :: ss => s.simplify :: simplifySequence ss

end

end CorpusQuery.Sentence
