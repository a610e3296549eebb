import CorpusQuery.Plan.Basic

/-!
# Groups

A group stands for the spans of another plan, such as the sentences or names of a text, or for the
empty span where they start or end.
-/

namespace CorpusQuery

/-- Which part of a span is meant. -/
inductive Extent where
  | full
  | start
  | finish
  deriving DecidableEq

namespace Extent

def text : Extent → String
  | full => "FULL"
  | start => "START"
  | finish => "END"

/-- The extent that is meant where none is given. -/
def standard : Extent := full

end Extent

structure Group where
  inner : Plan
  extent : Extent
  deriving DecidableEq

namespace Group

/-- All spans that are annotated in this layer. -/
def named (field layer : String) (extent : Extent) : Group :=
  ⟨.annotated field layer, extent⟩

def toPlan (g : Group) : Plan :=
  match g.extent with
  | .full => g.inner
  | .start => .startOf g.inner
  | .finish => .endOf g.inner

end Group

end CorpusQuery
