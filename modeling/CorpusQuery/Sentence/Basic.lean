import CorpusQuery.Phrase

/-!
# Sentences

A sentence is a phrase, or a composite: alternatives, each a sequence of sentences. Either has an
occurrence of its own, and a flag that it has been simplified, after which it refuses every edit.
Equality of sentences is decidable (`Sentence.same_iff`).
-/

namespace CorpusQuery

inductive Sentence where
  | basic (phrase : Phrase) (occurrence : Occurrence) (simplified : Bool)
  | composite (alternatives : List (List Sentence)) (occurrence : Occurrence) (simplified : Bool)

namespace Sentence

/-! ## Construction and parts -/

def ofPhrase (p : Phrase) : Sentence :=
  .basic p .once false

def ofAlternatives (alts : List (List Sentence)) : Sentence :=
  .composite alts .once false

/-- The sentence as the only element of a composite. -/
def grouped (s : Sentence) : Sentence :=
  ofAlternatives [[s]]

def occurrence : Sentence → Occurrence
  | .basic _ o _ | .composite _ o _ => o

def simplified : Sentence → Bool
  | .basic _ _ b | .composite _ _ b => b

/-- The same sentence with another occurrence. -/
def occurring (o : Occurrence) : Sentence → Sentence
  | .basic p _ b => .basic p o b
  | .composite alts _ b => .composite alts o b

/-- The same sentence, open to edits. -/
def reopened : Sentence → Sentence
  | .basic p o _ => .basic p o false
  | .composite alts o _ => .composite alts o false

/-- Whether there is no alternation: a phrase, or a single alternative. -/
def isSingle : Sentence → Bool
  | .basic .. => true
  | .composite alts _ _ => alts.length == 1

/-- Whether this is a phrase without elements. -/
def isVacant : Sentence → Bool
  | .basic p _ _ => p.isEmpty
  | .composite .. => false

/-- Whether this is a phrase with elements that stands once. -/
def isFusable : Sentence → Bool
  | .basic p o _ => o.isOnce && !p.isEmpty
  | .composite .. => false

mutual

/-- Whether nothing at all may stand for the sentence. Alternatives do not count as optional. -/
def isOptional : Sentence → Bool
  | .basic p o _ => o.optional || p.isOptional
  | .composite [es] o _ => o.optional || allOptional es
  | .composite _ o _ => o.optional

def allOptional : List Sentence → Bool
  | [] => true
  | s :: ss => s.isOptional && allOptional ss

end

/-! ## Edits -/

/-- Makes an edit, unless the sentence is simplified. -/
def edit (s : Sentence) (e : Edit) (result : Sentence) : Except Error Sentence :=
  if s.simplified then .error (.alreadySimplified e) else .ok result

def setOccurrence (s : Sentence) (lo hi : UInt64) : Except Error Sentence := do
  let s ← s.edit .setOccurrence s
  return s.occurring (← Occurrence.ofRange lo hi)

def setOptional (s : Sentence) (b : Bool) : Except Error Sentence :=
  s.edit .setOptional (s.occurring (s.occurrence.withOptional b))

def withOccurrence (s : Sentence) (o : Occurrence) : Except Error Sentence :=
  s.edit .withOccurrence (s.occurring o)

/-- The sentence repeated as `o` says. A sentence that has an occurrence already is grouped, so that
each occurrence keeps its scope. -/
def quantify (s : Sentence) (o : Occurrence) : Sentence :=
  if o.isOnce then s
  else if s.occurrence.isOnce then s.occurring o
  else s.grouped.occurring o

/-- The alternatives with one more sentence at the end of the last; it becomes the only one if there
is none. -/
def appendToLast (alts : List (List Sentence)) (t : Sentence) : List (List Sentence) :=
  match alts with
  | [] => [[t]]
  | [es] => [es ++ [t]]
  | es :: es' :: rest => es :: appendToLast (es' :: rest) t

/-- The sentence followed by another: two phrases that stand once become one, a composite that
stands once takes the other into its last alternative, and all else is grouped. -/
def followedBy (s t : Sentence) : Sentence :=
  match s, t with
  | .basic p o b, .basic q _ _ =>
    if s.isFusable && t.isFusable then .basic (p.fuse q) o b else ofAlternatives [[s, t]]
  | .composite alts o b, t =>
    if o.isOnce then .composite (appendToLast alts t) o b else ofAlternatives [[s, t]]
  | s, t => ofAlternatives [[s, t]]

/-- The sentence with another as an alternative before its own. -/
def preferring (s t : Sentence) : Sentence :=
  match s with
  | .composite alts o b =>
    if o.isOnce then .composite ([t] :: alts) o b else ofAlternatives [[t], [s]]
  | s => ofAlternatives [[t], [s]]

/-- Adds a sentence to the end of the last alternative. It takes the place of a vacant phrase. -/
def append (s t : Sentence) : Except Error Sentence :=
  s.edit .appendSentence <|
    if s.isVacant && s.occurrence.isOnce then t.reopened else s.followedBy t

/-- Adds a sentence as the first alternative. It takes the place of a vacant phrase. -/
def addFirstOption (s t : Sentence) : Except Error Sentence :=
  s.edit .addFirstOption <|
    if s.isVacant && s.occurrence.isOnce then t.reopened else s.preferring t

/-! ## Equality -/

mutual

def same : Sentence → Sentence → Bool
  | .basic p o b, .basic q o' b' => p == q && o == o' && b == b'
  | .composite as o b, .composite bs o' b' => sameAlternatives as bs && o == o' && b == b'
  | _, _ => false

def sameAlternatives : List (List Sentence) → List (List Sentence) → Bool
  | [], [] => true
  | es :: as, fs :: bs => sameSequence es fs && sameAlternatives as bs
  | _, _ => false

def sameSequence : List Sentence → List Sentence → Bool
  | [], [] => true
  | s :: ss, t :: ts => s.same t && sameSequence ss ts
  | _, _ => false

end

mutual

theorem same_iff : ∀ s t : Sentence, s.same t = true ↔ s = t
  | .basic .., t => by cases t <;> simp [same, and_assoc]
  | .composite as .., t => by cases t <;> simp [same, sameAlternatives_iff as, and_assoc]

theorem sameAlternatives_iff :
    ∀ as bs : List (List Sentence), sameAlternatives as bs = true ↔ as = bs
  | [], bs => by cases bs <;> simp [sameAlternatives]
  | es :: as, bs => by
    cases bs <;> simp [sameAlternatives, sameSequence_iff es, sameAlternatives_iff as]

theorem sameSequence_iff : ∀ ss ts : List Sentence, sameSequence ss ts = true ↔ ss = ts
  | [], ts => by cases ts <;> simp [sameSequence]
  | s :: ss, ts => by cases ts <;> simp [sameSequence, same_iff s, sameSequence_iff ss]

end

instance : DecidableEq Sentence := fun s t => decidable_of_iff _ (same_iff s t)

end Sentence

end CorpusQuery
