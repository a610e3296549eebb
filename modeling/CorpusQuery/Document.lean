import CorpusQuery.Json.Writer
import CorpusQuery.Settings

/-!
# Documents

A value that is written as JSON, with the kind by which messages name it. A writer with a capacity
takes a text only as a whole.
-/

namespace CorpusQuery

structure Document where
  artifact : Artifact
  json : Json

namespace Document

def ofPlan (p : Plan) : Document := ⟨.plan, p.toJson⟩

def ofIgnore (g : Plan.Ignore) : Document := ⟨.ignore, g.toJson⟩

def ofSettings (c : Settings) : Document := ⟨.settings, c.toJson⟩

def text (d : Document) (l : Json.Layout) : String :=
  d.json.render l

/-- What a writer holds that takes at most `capacity` bytes in UTF-8, if it takes the text. -/
def writeWithin (d : Document) (l : Json.Layout) (capacity : Option Nat) : Except Error String :=
  let s := d.text l
  match capacity with
  | none => .ok s
  | some n => if n < s.utf8ByteSize then .error (.unwritable d.artifact "full") else .ok s

end Document

end CorpusQuery
