import CorpusQuery.Json.Tree
import CorpusQuery.Proofs.Spelling

/-!
# The tree of what is written

A value has a tree without faults (`Tree.ofJson`). The tokens of the value are arranged as this
tree, wherever they stand: one by one they open, fill and close its containers, and the finished
value joins the container around it (`arrange_toTokens`). So a text that spells a value has the tree
of the value (`ofText_of_spelled`), and read whole it is the value again, if there is room for all
the containers that are open at once (`whole_ofJson`).
-/

namespace CorpusQuery.Json.Tree

mutual

/-- The tree of a value, in which nothing is wrong. -/
def ofJson : Json → Tree
  | .scalar s => .scalar (.of s)
  | .array es => .array (ofEntries es) none
  | .object ms => .object (ofMembers ms) none

def ofEntries : List Json → List Tree
  | [] => []
  | e :: es => ofJson e :: ofEntries es

def ofMembers : List (String × Json) → List (Lexeme String × Tree)
  | [] => []
  | (k, e) :: ms => (.of k, ofJson e) :: ofMembers ms

end

/-! ## Arranging tokens -/

/-- Goes on with more tokens. -/
def Progress.run : Progress → List Token → Tree
  | .done t, _ => t
  | .next p frames, ts => arrange p frames ts

theorem arrange_cons (p : Place) (frames : List Frame) (t : Token) (ts : List Token) :
    arrange p frames (t :: ts) = (step p frames t).run ts := by
  rw [arrange]
  cases step p frames t <;> rfl

/-- Where a value may come, or the end of an array, a value is taken as where only it may come. -/
theorem arrange_valueOrEnd (j : Json) (frames : List Frame) (ts : List Token) :
    arrange .valueOrEnd frames (j.toTokens ++ ts) = arrange .value frames (j.toTokens ++ ts) := by
  obtain (_ | _ | _ | _) | (_ | ⟨e, es⟩) | (_ | ⟨⟨k, e⟩, ms⟩) := j <;> rfl

mutual

theorem arrange_toTokens : ∀ (j : Json) (frames : List Frame) (ts : List Token),
    arrange .value frames (j.toTokens ++ ts) = (settle (ofJson j) frames).run ts
  | .scalar .null, _, _ => arrange_cons ..
  | .scalar (.bool _), _, _ => arrange_cons ..
  | .scalar (.number _), _, _ => arrange_cons ..
  | .scalar (.text _), _, _ => arrange_cons ..
  | .array [], _, _ => by
    rw [toTokens, List.cons_append, arrange_cons, step]
    exact arrange_cons ..
  | .array (e :: es), frames, ts => by
    -- The first entry stands where the array might as well end.
    have he := arrange_toTokens e (.array [] :: frames) (entryTokens es ++ .closeArray :: ts)
    have hes := arrange_entryTokens es [ofJson e] frames ts
    rw [← arrange_valueOrEnd] at he
    simpa [toTokens, arrange_cons, step, startValue, Progress.run, settle, Frame.add, ofJson,
      ofEntries] using he.trans hes
  | .object [], _, _ => by
    rw [toTokens, List.cons_append, arrange_cons, step]
    exact arrange_cons ..
  | .object ((k, e) :: ms), frames, ts => by
    have he := arrange_toTokens e (.member [] (.of k) :: frames)
      (memberTokens ms ++ .closeObject :: ts)
    have hms := arrange_memberTokens ms [(.of k, ofJson e)] frames ts
    simpa [toTokens, arrange_cons, step, startValue, Progress.run, settle, Frame.add, ofJson,
      ofMembers] using he.trans hms

theorem arrange_entryTokens : ∀ (es : List Json) (held : List Tree) (frames : List Frame)
    (ts : List Token),
    arrange .commaOrEnd (.array held :: frames) (entryTokens es ++ .closeArray :: ts)
      = (settle (.array (held.reverse ++ ofEntries es) none) frames).run ts
  | [], held, frames, ts => by
    rw [entryTokens, List.nil_append, arrange_cons, ofEntries, List.append_nil]
    rfl
  | e :: es, held, frames, ts => by
    have he := arrange_toTokens e (.array held :: frames) (entryTokens es ++ .closeArray :: ts)
    have hes := arrange_entryTokens es (ofJson e :: held) frames ts
    simpa [entryTokens, arrange_cons, step, Progress.run, settle, Frame.add, ofEntries]
      using he.trans hes

theorem arrange_memberTokens : ∀ (ms : List (String × Json)) (held : List (Lexeme String × Tree))
    (frames : List Frame) (ts : List Token),
    arrange .commaOrEnd (.object held :: frames) (memberTokens ms ++ .closeObject :: ts)
      = (settle (.object (held.reverse ++ ofMembers ms) none) frames).run ts
  | [], held, frames, ts => by
    rw [memberTokens, List.nil_append, arrange_cons, ofMembers, List.append_nil]
    rfl
  | (k, e) :: ms, held, frames, ts => by
    have he := arrange_toTokens e (.member held (.of k) :: frames)
      (memberTokens ms ++ .closeObject :: ts)
    have hms := arrange_memberTokens ms ((.of k, ofJson e) :: held) frames ts
    simpa [memberTokens, arrange_cons, step, Progress.run, settle, Frame.add, ofMembers]
      using he.trans hms

end

theorem ofTokens_toTokens (j : Json) : ofTokens j.toTokens = ofJson j := by
  simpa [ofTokens, settle, Progress.run] using arrange_toTokens j [] []

/-- A text that spells a value has the tree of the value. -/
theorem ofText_of_spelled {j : Json} {text : String} (h : Spelled j.toTokens text.toList) :
    ofText text = ofJson j := by
  rw [ofText, h.tokens_eq, ofTokens_toTokens]

theorem ofText_render {j : Json} (h : j.Integral) (l : Layout) :
    ofText (j.render l) = ofJson j :=
  ofText_of_spelled (spelled_render h l)

/-! ## Reading whole -/

mutual

theorem whole_ofJson : ∀ (j : Json) (room : Nat),
    (ofJson j).whole room = if j.depth ≤ room then .ok j else .error .malformed
  | .scalar s, room => by simp [ofJson, whole, Lexeme.of, Except.map, depth]
  | .array es, 0 => by simp [ofJson, whole, depth]
  | .array es, room + 1 => by
    simp only [ofJson, whole, wholeEntries_ofEntries es, depth, Nat.add_le_add_iff_right]
    split <;> rfl
  | .object ms, 0 => by simp [ofJson, whole, depth]
  | .object ms, room + 1 => by
    simp only [ofJson, whole, wholeMembers_ofMembers ms, depth, Nat.add_le_add_iff_right]
    split <;> rfl

theorem wholeEntries_ofEntries : ∀ (es : List Json) (room : Nat),
    wholeEntries room (ofEntries es) = if depthEntries es ≤ room then .ok es else .error .malformed
  | [], room => by simp [ofEntries, wholeEntries, depthEntries]
  | e :: es, room => by
    simp only [ofEntries, wholeEntries, whole_ofJson e, wholeEntries_ofEntries es, depthEntries,
      Nat.max_le]
    split_ifs <;> first | rfl | omega

theorem wholeMembers_ofMembers : ∀ (ms : List (String × Json)) (room : Nat),
    wholeMembers room (ofMembers ms) = if depthMembers ms ≤ room then .ok ms else .error .malformed
  | [], room => by simp [ofMembers, wholeMembers, depthMembers]
  | (k, e) :: ms, room => by
    simp only [ofMembers, wholeMembers, whole_ofJson e, wholeMembers_ofMembers ms, depthMembers,
      Nat.max_le]
    split_ifs <;> first | rfl | omega

end

end CorpusQuery.Json.Tree
