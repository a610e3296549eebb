import CorpusQuery.Group
import CorpusQuery.Neighbours
import CorpusQuery.Predicate.Canonical

/-!
# Phrases

A phrase is a row of elements, each a word or a group that stands as often as its occurrence says.
Simplifying it merges equal neighbours (`Phrase.coalesce`); after that it refuses every edit.
-/

namespace CorpusQuery

/-- What stands in one place of a phrase. -/
inductive Content where
  | word (w : Predicate.Canonical)
  | group (g : Group)
  deriving DecidableEq

def Content.toPlan : Content → Plan
  | word w => w.toPlan
  | group g => g.toPlan

structure Element where
  content : Content
  occurrence : Occurrence
  deriving DecidableEq

namespace Element

def ofWord (w : Predicate) (o : Occurrence) : Element :=
  ⟨.word w.canonical, o⟩

def ofGroup (g : Group) (o : Occurrence) : Element :=
  ⟨.group g, o⟩

def setOccurrence (e : Element) (lo hi : UInt64) : Except Error Element :=
  (Occurrence.ofRange lo hi).map fun o => { e with occurrence := o }

def setOptional (e : Element) (b : Bool) : Element :=
  { e with occurrence := e.occurrence.withOptional b }

/-- One element for two neighbours of equal content, if their occurrences merge. -/
def merge (a b : Element) : Option Element :=
  if a.content = b.content then
    (a.occurrence.merge b.occurrence).map fun o => { a with occurrence := o }
  else
    none

def lower (ignore : Option Plan.Ignore) (e : Element) : Plan.Item :=
  Plan.Item.repeated ignore e.occurrence ⟨e.content.toPlan, false⟩

def toPlan (ignore : Option Plan.Ignore) (e : Element) : Plan :=
  (e.lower ignore).toPlan ignore

end Element

structure Phrase where
  elements : List Element := []
  simplified : Bool := false
  deriving DecidableEq

namespace Phrase

/-- Merges neighbours of equal content where their occurrences allow it. -/
def coalesce (es : List Element) : List Element :=
  Neighbours.merge Element.merge es

/-- Adds elements at the end, unless the phrase is simplified. -/
def extend (p : Phrase) (edit : Edit) (es : List Element) : Except Error Phrase :=
  if p.simplified then .error (.alreadySimplified edit)
  else .ok { p with elements := p.elements ++ es }

def add (p : Phrase) (e : Element) : Except Error Phrase :=
  p.extend .addElement [e]

def addWord (p : Phrase) (w : Predicate) (o : Occurrence) : Except Error Phrase :=
  p.extend .addWord [.ofWord w o]

def addGroup (p : Phrase) (g : Group) (o : Occurrence) : Except Error Phrase :=
  p.extend .addGroup [.ofGroup g o]

/-- Adds the elements of another phrase. -/
def merge (p q : Phrase) : Except Error Phrase :=
  p.extend .mergePhrase q.elements

/-- The two phrases in a row. A simplified phrase goes on merging neighbours, and so stays
simplified. -/
def fuse (p q : Phrase) : Phrase :=
  { p with
    elements :=
      if p.simplified then Neighbours.mergeOnto Element.merge p.elements q.elements
      else p.elements ++ q.elements }

def simplify (p : Phrase) : Phrase :=
  if p.simplified then p else ⟨coalesce p.elements, true⟩

def isEmpty (p : Phrase) : Bool :=
  p.elements.isEmpty

/-- Whether there are elements, all of them optional. -/
def isOptional (p : Phrase) : Bool :=
  !p.isEmpty && p.elements.all (·.occurrence.optional)

/-- The plan of the phrase, as an item that is optional if all elements are. -/
def lower (ignore : Option Plan.Ignore) (p : Phrase) : Except Error Plan.Item :=
  match p.elements with
  | [] => .error (.nothingToLower .phrase)
  | [e] => .ok (e.lower ignore)
  | es => .ok ⟨.sequence (es.map (·.lower ignore)) ignore, p.isOptional⟩

def toPlan (ignore : Option Plan.Ignore) (p : Phrase) : Except Error Plan :=
  (p.lower ignore).map (·.toPlan ignore)

end Phrase

end CorpusQuery
