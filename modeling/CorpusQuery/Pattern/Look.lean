/-!
# Assertions

What a pattern may ask of a place between two characters.
-/

namespace CorpusQuery.Pattern

/-- Where a place is to be towards words. -/
inductive Boundary where
  | anywhere
  | nowhere
  | start
  | stop
  | startHalf
  | stopHalf
  deriving DecidableEq

inductive Look where
  | textStart
  | textEnd
  /-- The start of a line, where `crlf` tells which signs end lines. -/
  | lineStart (crlf : Bool)
  | lineEnd (crlf : Bool)
  | word (boundary : Boundary) (unicode : Bool)
  deriving DecidableEq

end CorpusQuery.Pattern
