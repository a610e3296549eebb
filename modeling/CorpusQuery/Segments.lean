/-!
# Segments

A text falls into segments at the places where a sign stands. There is always one segment more than
there are signs (`Segments.length_between`).
-/

namespace CorpusQuery.Segments

/-- The segments between the places of the sign. -/
def between (sign : Char) : List Char → List (List Char)
  | [] => [[]]
  | c :: cs =>
    if c = sign then [] :: between sign cs
    else
      match between sign cs with
      | [] => [[c]]
      | w :: ws => (c :: w) :: ws

theorem length_between (sign : Char) (cs : List Char) :
    (between sign cs).length = cs.count sign + 1 := by
  fun_induction between sign cs <;> simp_all

end CorpusQuery.Segments
