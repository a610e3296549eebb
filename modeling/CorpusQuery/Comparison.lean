import CorpusQuery.Error

/-!
# Comparisons

The relations by which an atom may compare an annotation's number with a bound. Each is written by
its symbol, and equality also as `==` (`Comparison.ofSymbol`).
-/

namespace CorpusQuery

inductive Comparison where
  | equal
  | less
  | lessOrEqual
  | greater
  | greaterOrEqual
  deriving DecidableEq

namespace Comparison

def symbol : Comparison → String
  | equal => "="
  | less => "<"
  | lessOrEqual => "<="
  | greater => ">"
  | greaterOrEqual => ">="

/-- Reads a symbol; `==` is a second spelling of equality. -/
def ofSymbol (s : String) : Except Error Comparison :=
  match s with
  | "=" | "==" => .ok equal
  | "<" => .ok less
  | "<=" => .ok lessOrEqual
  | ">" => .ok greater
  | ">=" => .ok greaterOrEqual
  | _ => .error (.unknownComparison s)

theorem ofSymbol_symbol (c : Comparison) : ofSymbol c.symbol = .ok c := by cases c <;> rfl

end Comparison

end CorpusQuery
