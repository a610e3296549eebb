import CorpusQuery.Proofs.Parts

/-!
# Patterns between anchors

A pattern is matched against whole values, so it is compiled as `^(?:`, the pattern, `)$`, and only
so. A pattern that closes a group it does not open (`Dialect.ClosesEarly`) can pass for two groups
there, so that what is accepted need not be a regular expression. This is the only way it can
happen: any other pattern makes the same piece between the anchors as it does alone, two levels
higher (`Dialect.Lawful.piece?_anchored_eq_map`), unless it ends in a comment, and is then refused.

The compiler is not part of the search language, so that all this is said of any compiler that reads
a lawful dialect (`Dialect.Describes`).
-/

namespace CorpusQuery.Pattern

open Reading

/-- What is known of a compiler of patterns that is told to take or to refuse a text. -/
structure Dialect.Describes (d : Dialect) (compiles : String → Bool) : Prop where
  /-- Its signs keep to the laws. -/
  lawful : d.Lawful
  /-- It takes what can be read by its signs, group by group, and is within its limits. -/
  compiles_eq s : compiles s = d.compiles s

theorem Dialect.standard_describes : Dialect.standard.Describes Dialect.standard.compiles where
  lawful := Dialect.standard_lawful
  compiles_eq _ := rfl

/-! ## Between anchors -/

/-- The level of a pattern between anchors, when its group is open. -/
def anchor : Level :=
  { flags := {}, parts := [some (.ofAtom {} (.look .textStart))] }

/-- The piece between two anchors, as a group that notes nothing. -/
def Piece.anchored (p : Piece) : Piece :=
  .ofChoice [.ofRow [.ofAtom {} (.look .textStart), ⟨p.height + 1, p.node⟩,
    .ofAtom {} (.look .textEnd)]]

theorem Piece.height_anchored (p : Piece) : p.anchored.height = p.height + 2 := by
  simp [Piece.anchored, ofChoice, ofRow, rowHeight, ofAtom]

/-- The reading between anchors when the group around the pattern is closed, and `e` has been read
in it. -/
def Reading.closed (e : Reading) : Reading :=
  { names := e.names, level := anchor.add (some e.level.close) }

namespace Dialect

variable {d : Dialect} {cs w : List Char} {e : Reading}

/-- A sign that is read under no flags. -/
theorem Lawful.toEnd_of_plain (hd : d.Lawful) {r r' : Reading} {s : Sign} {rest : List Char}
    (hr : r.flags = {}) (hs : d.sign {} cs = some (s, rest)) (hr' : r.after? s = some r') :
    d.toEnd r cs = d.toEnd r' rest := by
  have hskip : r.flags.skip cs = cs := by simp [Flags.skip, hr]
  rw [hd.toEnd_of_sign (s := s) (by rw [hskip, hr, hs]), hr']
  rfl

theorem Lawful.toEnd_group (hd : d.Lawful) {r : Reading} (hr : r.flags = {}) (cs : List Char) :
    d.toEnd r ('(' :: '?' :: ':' :: cs) =
      d.toEnd { r with level := { flags := {} }, outer := r.level :: r.outer } cs :=
  hd.toEnd_of_plain hr (hd.group cs) rfl

theorem Lawful.toEnd_stop (hd : d.Lawful) {r : Reading} (hr : r.flags = {}) :
    d.toEnd r ['$'] =
      { r with level := r.level.add (some (.ofAtom {} (.look .textEnd))) }.whole? :=
  (hd.toEnd_of_plain hr (hd.stop []) rfl).trans (toEnd_nil _)

/-- These and the group around the pattern make two more levels. -/
theorem allows_anchored (p : Piece) :
    d.allows p.anchored = true ↔
      p.height + 2 ≤ d.maxHeight ∧ d.isAffordable p.anchored.node = true := by
  simp [allows, Piece.height_anchored]

theorem toList_anchored (v : String) :
    (anchored v).toList = '^' :: '(' :: '?' :: ':' :: (v.toList ++ [')', '$']) := by
  simp [Pattern.anchored]

theorem Lawful.piece?_anchored (hd : d.Lawful) (v : String) :
    d.piece? (anchored v).toList =
      d.toEnd (({} : Reading).under anchor) (v.toList ++ [')', '$']) := by
  rw [toList_anchored]
  calc
    d.piece? ('^' :: '(' :: '?' :: ':' :: (v.toList ++ [')', '$'])) =
        d.toEnd { level := anchor } ('(' :: '?' :: ':' :: (v.toList ++ [')', '$'])) :=
      hd.toEnd_of_plain rfl (hd.start _) rfl
    _ = _ := hd.toEnd_group rfl _

/-! ## Kinds of patterns -/

/-- Whether a text is a regular expression, however high and large. -/
def IsReadable (d : Dialect) (cs : List Char) : Prop :=
  (d.piece? cs).isSome

instance (d : Dialect) (cs : List Char) : Decidable (d.IsReadable cs) :=
  inferInstanceAs (Decidable ((d.piece? cs).isSome = true))

/-- Whether a text is readable but takes a parenthesis after it for a part of a comment. -/
def EndsInComment (d : Dialect) (cs : List Char) : Prop :=
  d.IsReadable cs ∧ d.IsReadable (cs ++ [')'])

instance (d : Dialect) (cs : List Char) : Decidable (d.EndsInComment cs) :=
  inferInstanceAs (Decidable (_ ∧ _))

/-- Whether a text closes a group that it does not open: a parenthesis comes outside of comments
when no group is open. All that has been read by then is in `e`, and `w` is left. -/
def ClosesEarly (d : Dialect) (cs : List Char) (e : Reading) (w : List Char) : Prop :=
  ∃ u, cs = u ++ ')' :: w ∧ d.ending? {} u = some e ∧ e.outer = [] ∧ ¬ d.EndsInComment u

theorem isReadable_of_eq {p : Piece} (h : d.piece? cs = some p) : d.IsReadable cs := by
  simp [IsReadable, h]

theorem not_isReadable_of_eq (h : d.piece? cs = none) : ¬ d.IsReadable cs := by
  simp [IsReadable, h]

theorem Ends.not_endsInComment (h : d.Ends {} cs e) : ¬ d.EndsInComment cs :=
  fun hcomment => not_isReadable_of_eq (h.stray []) hcomment.2

/-- A text closes a group early just if a start of it ends outside of groups, at a parenthesis. -/
theorem Lawful.closesEarly_iff (hd : d.Lawful) :
    d.ClosesEarly cs e w ↔ ∃ u, cs = u ++ ')' :: w ∧ d.Ends {} u e := by
  refine ⟨fun ⟨u, hcs, he, ho, hcomment⟩ => ⟨u, hcs, ?_⟩, fun ⟨u, hcs, h⟩ =>
    ⟨u, hcs, h.ending, h.outer, h.not_endsInComment⟩⟩
  have hp : d.piece? u = some e.level.whole := by
    rw [piece?, toEnd, he]
    exact whole?_of_outer ho
  cases hd.outcome {} u with
  | ends h =>
    obtain rfl := Option.some.inj (he.symm.trans h.ending)
    exact h
  | inComment _ h =>
    exact absurd ⟨isReadable_of_eq hp, isReadable_of_eq (h [] List.not_mem_nil)⟩ hcomment
  | @strays u' w' _ hu' h =>
    subst hu'
    exact absurd (isReadable_of_eq hp) (not_isReadable_of_eq (h.stray w'))
  | fails h => exact absurd (isReadable_of_eq hp) (not_isReadable_of_eq h)

theorem Lawful.not_isReadable_of_closesEarly (hd : d.Lawful) (h : d.ClosesEarly cs e w) :
    ¬ d.IsReadable cs := by
  obtain ⟨u, rfl, he⟩ := hd.closesEarly_iff.1 h
  exact not_isReadable_of_eq (he.stray w)

/-! ## What becomes of them between anchors -/

/-- Between anchors a text that closes a group early is read on after the group around it. -/
theorem Lawful.piece?_anchored_of_closesEarly (hd : d.Lawful) {v : String}
    (h : d.ClosesEarly v.toList e w) :
    d.piece? (anchored v).toList = d.toEnd e.closed (w ++ [')', '$']) := by
  obtain ⟨u, hv, he⟩ := hd.closesEarly_iff.1 h
  rw [hd.piece?_anchored, hv, List.append_assoc, List.cons_append, he.closes, he.outer]
  rfl

/-- Between anchors a text that ends in a comment is not readable: the comment takes in the closing
parenthesis. -/
theorem Lawful.piece?_anchored_of_endsInComment (hd : d.Lawful) {v : String}
    (h : d.EndsInComment v.toList) : d.piece? (anchored v).toList = none := by
  rw [hd.piece?_anchored]
  cases hd.outcome {} v.toList with
  | ends he => exact absurd h he.not_endsInComment
  | inComment _ _ h => exact h anchor ['$'] (by decide)
  | @strays u w e hcs he =>
    exact absurd h.1 (hd.not_isReadable_of_closesEarly (hd.closesEarly_iff.2 ⟨u, hcs, he⟩))
  | fails hnone => exact absurd h.1 (not_isReadable_of_eq hnone)

theorem Ends.close_eq (h : d.Ends {} cs e) :
    e.level.close = ⟨e.level.whole.height + 1, e.level.whole.node⟩ := by
  have hcaptures : e.level.captures = false := by
    obtain ⟨names, level, outer⟩ := e
    obtain rfl : outer = [] := h.outer
    exact h.noted
  simp [Level.close, hcaptures]

/-- Other texts make the same piece between anchors as they do alone. -/
theorem Lawful.piece?_anchored_eq_map (hd : d.Lawful) {v : String}
    (hclose : ∀ e w, ¬ d.ClosesEarly v.toList e w) (hcomment : ¬ d.EndsInComment v.toList) :
    d.piece? (anchored v).toList = (d.piece? v.toList).map Piece.anchored := by
  rw [hd.piece?_anchored]
  cases hd.outcome {} v.toList with
  | @ends e h =>
    have hp : d.piece? v.toList = some e.level.whole := h.whole
    rw [h.closes, hp, h.close_eq, h.outer]
    exact hd.toEnd_stop rfl
  | inComment h₁ h₂ =>
    exact absurd ⟨isReadable_of_eq h₁, isReadable_of_eq (h₂ [] List.not_mem_nil)⟩ hcomment
  | @strays u w e hcs h => exact absurd (hd.closesEarly_iff.2 ⟨u, hcs, h⟩) (hclose e w)
  | fails h₁ h₂ =>
    have hp : d.piece? v.toList = none := h₁
    rw [h₂ _ _ (by decide), hp]
    rfl

/-- The piece of two groups between the anchors. -/
def twoGroups (e e' : Reading) : Piece :=
  .ofChoice [.ofRow [.ofAtom {} (.look .textStart), e.level.close, e'.level.close,
    .ofAtom {} (.look .textEnd)]]

/-- After the group around it is closed, a text may open one that the last parenthesis closes. -/
theorem Lawful.toEnd_closed_group (hd : d.Lawful) {e' : Reading}
    (h : d.Ends { names := e.names } w e') :
    d.toEnd e.closed ('(' :: '?' :: ':' :: (w ++ [')', '$'])) = some (twoGroups e e') := by
  have hwithin := h.closes e.closed.level ['$']
  rw [hd.toEnd_group (r := e.closed) rfl]
  refine hwithin.trans ?_
  rw [h.outer]
  exact hd.toEnd_stop rfl

/-! ## What the compiler says -/

variable {compiles : String → Bool}

theorem Describes.eq_false (h : d.Describes compiles) {s : String} (hs : ¬ d.IsReadable s.toList) :
    compiles s = false := by
  rw [IsReadable, Option.not_isSome_iff_eq_none] at hs
  rw [h.compiles_eq, Dialect.compiles, hs]
  rfl

theorem Describes.eq_true_iff (h : d.Describes compiles) {s : String} :
    compiles s = true ↔ ∃ p, d.piece? s.toList = some p ∧ d.allows p = true := by
  rw [h.compiles_eq, Dialect.compiles, Option.any_eq_true]

end Dialect

end CorpusQuery.Pattern

namespace CorpusQuery.Plan

open Pattern

variable {d : Dialect} {compiles : String → Bool}

theorem ofPatternWith_eq_ok_iff (h : d.Describes compiles) (field layer pattern : String) :
    ofPatternWith compiles field layer pattern = .ok (.regexp field layer pattern) ↔
      ∃ p, d.piece? (anchored pattern).toList = some p ∧ d.allows p = true := by
  rw [← h.eq_true_iff]
  simp [ofPatternWith]

/-- A pattern makes a plan or is refused by name. One that closes a group it does not open is no
regular expression, but it is taken exactly if what is left of it after the group around it, with
another parenthesis and the last anchor, is read to its end within the limits. Any other pattern is
taken exactly if it is a regular expression, does not end in a comment, and is within the limits
between anchors. -/
theorem ofPatternWith_betweenAnchors (h : d.Describes compiles) (field layer pattern : String) :
    (ofPatternWith compiles field layer pattern = .ok (.regexp field layer pattern) ∨
        ofPatternWith compiles field layer pattern = .error (.badPattern pattern)) ∧
      (∀ e w, d.ClosesEarly pattern.toList e w →
        ¬ d.IsReadable pattern.toList ∧ compiles pattern = false ∧
          (ofPatternWith compiles field layer pattern = .ok (.regexp field layer pattern) ↔
            ∃ p, d.toEnd e.closed (w ++ [')', '$']) = some p ∧ d.allows p = true)) ∧
      ((∀ e w, ¬ d.ClosesEarly pattern.toList e w) →
        (ofPatternWith compiles field layer pattern = .ok (.regexp field layer pattern) ↔
          d.IsReadable pattern.toList ∧ ¬ d.EndsInComment pattern.toList ∧
            ∀ p ∈ d.piece? pattern.toList,
              p.height + 2 ≤ d.maxHeight ∧ d.isAffordable p.anchored.node = true)) := by
  refine ⟨?_, fun e w hclose => ?_, fun hclose => ?_⟩
  · unfold ofPatternWith
    split_ifs
    · exact .inl rfl
    · exact .inr rfl
  · have hnone := h.lawful.not_isReadable_of_closesEarly hclose
    refine ⟨hnone, h.eq_false hnone, ?_⟩
    rw [ofPatternWith_eq_ok_iff h, h.lawful.piece?_anchored_of_closesEarly hclose]
  · simp only [ofPatternWith_eq_ok_iff h, ← Dialect.allows_anchored]
    by_cases hcomment : d.EndsInComment pattern.toList
    · simp [h.lawful.piece?_anchored_of_endsInComment hcomment, hcomment]
    · rw [h.lawful.piece?_anchored_eq_map hclose hcomment]
      cases hp : d.piece? pattern.toList <;> simp [Dialect.IsReadable, hp, hcomment]

/-- The first pattern ends in a comment: it is a regular expression, and refused. The second closes
a group that it does not open: it is none. -/
theorem ofPatternWith_betweenAnchors_standard :
    ofPattern "t" "lemma" "(?x)a #c" = .error (.badPattern "(?x)a #c") ∧
      Dialect.standard.compiles "a)(?:b" = false := by
  have hcomment : Dialect.standard.EndsInComment "(?x)a #c".toList := by decide +kernel
  have hclose : ∀ e w, ¬ Dialect.standard.ClosesEarly "(?x)a #c".toList e w := fun e w h =>
    Dialect.standard_lawful.not_isReadable_of_closesEarly h hcomment.1
  obtain ⟨hanswer, -, hother⟩ :=
    ofPatternWith_betweenAnchors Dialect.standard_describes "t" "lemma" "(?x)a #c"
  obtain ⟨-, hearly, -⟩ :=
    ofPatternWith_betweenAnchors Dialect.standard_describes "t" "lemma" "a)(?:b"
  refine ⟨hanswer.resolve_left fun h => ((hother hclose).1 h).2.1 hcomment, ?_⟩
  exact (hearly _ _ ⟨['a'], rfl, rfl, rfl, by decide +kernel⟩).2.1

/-- Two texts that are read to their ends, one after the other, pass for two groups with a closing
and an opening parenthesis between them, unless they are too high or too large. -/
theorem ofPatternWith_twoGroups (h : d.Describes compiles) {u w : String} {e e' : Reading}
    (hu : d.Ends {} u.toList e) (hw : d.Ends { names := e.names } w.toList e')
    (field layer : String) :
    compiles (u ++ ")(?:" ++ w) = false ∧
      (ofPatternWith compiles field layer (u ++ ")(?:" ++ w) =
          .ok (.regexp field layer (u ++ ")(?:" ++ w)) ↔
        d.allows (Dialect.twoGroups e e') = true) := by
  have hclose : d.ClosesEarly (u ++ ")(?:" ++ w).toList e ('(' :: '?' :: ':' :: w.toList) :=
    h.lawful.closesEarly_iff.2 ⟨u.toList, by simp, hu⟩
  refine ⟨h.eq_false (h.lawful.not_isReadable_of_closesEarly hclose), ?_⟩
  rw [ofPatternWith_eq_ok_iff h, h.lawful.piece?_anchored_of_closesEarly hclose]
  simp [h.lawful.toEnd_closed_group hw]

/-- The pattern closes a group that it does not open, and passes for two groups. -/
theorem ofPattern_closesEarly :
    Dialect.standard.compiles "a)(?:b" = false ∧
      ofPattern "t" "lemma" "a)(?:b" = .ok (.regexp "t" "lemma" "a)(?:b") := by
  have hcompiles : Dialect.standard.compiles (anchored "a)(?:b") := by decide +kernel
  refine ⟨by decide +kernel, ?_⟩
  rw [ofPattern, ofPatternWith, if_pos hcompiles]

end CorpusQuery.Plan
