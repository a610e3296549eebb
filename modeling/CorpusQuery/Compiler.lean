import CorpusQuery.Chain
import CorpusQuery.Sentence.Lowering
import CorpusQuery.Sentence.Simplification
import CorpusQuery.Settings

/-!
# The compiler

Compiling a sentence simplifies it and then lowers it, with the ignore clause that is installed. A
sentence gives a whole plan or an error.
-/

namespace CorpusQuery

structure Compiler where
  settings : Settings := {}
  ignore : Option Plan.Ignore := none

namespace Compiler

/-- Installs what may be skipped, as much of it in a row as the settings say. -/
def withIgnored (c : Compiler) (p : Plan) : Compiler :=
  { c with ignore := some ⟨p, c.settings.maxSkip⟩ }

def withIgnore (c : Compiler) (g : Plan.Ignore) : Compiler :=
  { c with ignore := some g }

def withSettings (c : Compiler) (s : Settings) : Compiler :=
  { c with settings := s }

def compile (c : Compiler) (s : Sentence) : Except Error Plan :=
  s.simplify.toPlan c.ignore

def compileChain (c : Compiler) (d : Chain) : Except Error Plan := do
  c.compile (← d.assemble)

/-- The plan of each sentence, in order. -/
def compileAll (c : Compiler) (ss : List Sentence) : List (Except Error Plan) :=
  ss.map c.compile

end Compiler

end CorpusQuery
