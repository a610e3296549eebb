import CorpusQuery.Document
import CorpusQuery.Proofs.Arrangement
import CorpusQuery.Proofs.Grammar

/-!
# The first value of a text

A document is a text that is one value of the grammar, with blanks around it (`IsDocument`). The
readers never ask whether the text ends after the value: they accept a text exactly if it begins
with a document that they accept, whatever follows (`parse_iff_document`), and refuse all others as
JSON.
-/

namespace CorpusQuery.Json

/-! ## The grammar of values -/

mutual

/-- The tokens of one value. -/
inductive OneValue : List Token → Prop
  | text (l) : OneValue [.text l]
  | atom (l) : OneValue [.atom l]
  | emptyArray : OneValue [.openArray, .closeArray]
  | array {ts} : Entries ts → OneValue (.openArray :: (ts ++ [.closeArray]))
  | emptyObject : OneValue [.openObject, .closeObject]
  | object {ts} : Members ts → OneValue (.openObject :: (ts ++ [.closeObject]))

/-- One value or more, with commas between them. -/
inductive Entries : List Token → Prop
  | one {ts} : OneValue ts → Entries ts
  | more {ts us} : Entries ts → OneValue us → Entries (ts ++ .comma :: us)

/-- One member or more, with commas between them. -/
inductive Members : List Token → Prop
  | one {k ts} : OneValue ts → Members (.text k :: .colon :: ts)
  | more {ts k us} : Members ts → OneValue us → Members (ts ++ .comma :: .text k :: .colon :: us)

end

/-- The text is one value, with any blanks before and after it. -/
def IsDocument (s : String) : Prop :=
  ∃ ts, OneValue ts ∧ Lexed ts s.toList

namespace Tree

/-- A container that ends by its bracket. -/
def IsClosed : Tree → Prop
  | .scalar _ => False
  | .array _ ending | .object _ ending => ending = none

theorem not_isClosed_stop (f : Fault) (p : Place) (fs : List Frame) : ¬ (stop f p fs).IsClosed := by
  have hclose : ∀ frame : Frame, ¬ (frame.close (some f)).IsClosed := by
    rintro (_ | _ | _) <;> exact nofun
  have houtward : ∀ fs t, ¬ t.IsClosed → ¬ (stop.outward f t fs).IsClosed := by
    intro fs
    induction fs with
    | nil => exact fun _ h => h
    | cons frame fs ih => exact fun t _ => ih _ (hclose _)
  unfold stop
  split
  iterate 3 exact houtward _ _ id
  exact houtward _ _ (hclose _)

/-! ## What the open containers have taken -/

/-- The tokens that open the containers and bring each to a place for a value. -/
inductive Opened : List Frame → List Token → Prop
  | nil : Opened [] []
  | firstEntry {fs b} : Opened fs b → Opened (.array [] :: fs) (b ++ [.openArray])
  | entry {fs b es ts} : Opened fs b → Entries ts →
      Opened (.array es :: fs) (b ++ .openArray :: (ts ++ [.comma]))
  | firstMember {fs b k} : Opened fs b →
      Opened (.member [] k :: fs) (b ++ [.openObject, .text k, .colon])
  | member {fs b ms k ts} : Opened fs b → Members ts →
      Opened (.member ms k :: fs) (b ++ .openObject :: (ts ++ [.comma, .text k, .colon]))

/-- The tokens that lead to a place in the innermost of the open containers. -/
inductive Reached : Place → List Frame → List Token → Prop
  | value {fs b} : Opened fs b → Reached .value fs b
  | valueOrEnd {fs b} : Opened fs b → Reached .valueOrEnd (.array [] :: fs) (b ++ [.openArray])
  | keyOrEnd {fs b} : Opened fs b → Reached .keyOrEnd (.object [] :: fs) (b ++ [.openObject])
  | key {fs b ms ts} : Opened fs b → Members ts →
      Reached .key (.object ms :: fs) (b ++ .openObject :: (ts ++ [.comma]))
  | firstColon {fs b k} : Opened fs b →
      Reached .colon (.member [] k :: fs) (b ++ [.openObject, .text k])
  | colon {fs b ms k ts} : Opened fs b → Members ts →
      Reached .colon (.member ms k :: fs) (b ++ .openObject :: (ts ++ [.comma, .text k]))
  | entries {fs b es ts} : Opened fs b → Entries ts →
      Reached .commaOrEnd (.array es :: fs) (b ++ .openArray :: ts)
  | members {fs b ms ts} : Opened fs b → Members ts →
      Reached .commaOrEnd (.object ms :: fs) (b ++ .openObject :: ts)

/-- What the token `t` leads to after `b`: a place that the tokens so far lead to, or a tree, which
is closed only if the token closes it and the tokens so far are one value. -/
def Progress.Follows (b : List Token) (t : Token) : Progress → Prop
  | .next p fs => Reached p fs (b ++ [t])
  | .done tree => tree.IsClosed → t.Closing ∧ OneValue (b ++ [t])

variable {fs : List Frame} {b ts : List Token} {t : Token}

theorem follows_stop (p : Place) : (Progress.done (stop .malformed p fs)).Follows b t :=
  fun h => (not_isClosed_stop _ _ _ h).elim

/-- A value takes the containers around it to the place after it. -/
theorem Opened.follows_settle (ho : Opened fs b) (tree : Tree) (ts : List Token)
    (hv : OneValue (ts ++ [t])) (hc : tree.IsClosed → t.Closing) :
    (settle tree fs).Follows (b ++ ts) t := by
  cases ho with
  | nil => exact fun h => ⟨hc h, hv⟩
  | firstEntry ho => simpa [settle, Progress.Follows, Frame.add] using Reached.entries ho (.one hv)
  | entry ho hes =>
    simpa [settle, Progress.Follows, Frame.add] using Reached.entries ho (hes.more hv)
  | firstMember ho =>
    simpa [settle, Progress.Follows, Frame.add] using Reached.members ho (.one hv)
  | member ho hms =>
    simpa [settle, Progress.Follows, Frame.add] using Reached.members ho (hms.more hv)

theorem Opened.follows_scalar (ho : Opened fs b) (l : Lexeme Scalar) (hv : OneValue [t]) :
    (settle (.scalar l) fs).Follows b t := by
  have := ho.follows_settle (.scalar l) [] hv False.elim
  rwa [List.append_nil] at this

theorem Opened.follows_startValue (ho : Opened fs b) (t : Token) :
    (startValue fs t).Follows b t := by
  cases t with
  | openArray => exact Reached.valueOrEnd ho
  | openObject => exact Reached.keyOrEnd ho
  | text l => exact ho.follows_scalar _ (.text l)
  | atom l => exact ho.follows_scalar _ (.atom l)
  | _ => exact follows_stop _

theorem Reached.follows_step {p : Place} (hr : Reached p fs b) (t : Token) :
    (step p fs t).Follows b t := by
  cases hr with
  | value ho => exact ho.follows_startValue t
  | valueOrEnd ho =>
    have h := (Opened.firstEntry ho).follows_startValue t
    cases t with
    | closeArray => exact ho.follows_settle _ [.openArray] .emptyArray fun _ => .array
    | _ => exact h
  | keyOrEnd ho =>
    cases t with
    | closeObject => exact ho.follows_settle _ [.openObject] .emptyObject fun _ => .object
    | text k => simpa [step, Progress.Follows] using Reached.firstColon (k := k) ho
    | _ => exact follows_stop _
  | key ho hms =>
    cases t with
    | text k => simpa [step, Progress.Follows] using Reached.colon (k := k) ho hms
    | _ => exact follows_stop _
  | firstColon ho =>
    cases t with
    | colon => simpa [step, Progress.Follows] using Reached.value (.firstMember ho)
    | _ => exact follows_stop _
  | colon ho hms =>
    cases t with
    | colon => simpa [step, Progress.Follows] using Reached.value (.member ho hms)
    | _ => exact follows_stop _
  | entries ho hes =>
    cases t with
    | comma => simpa [step, Progress.Follows] using Reached.value (.entry ho hes)
    | closeArray => exact ho.follows_settle _ (.openArray :: _) (.array hes) fun _ => .array
    | _ => exact follows_stop _
  | members ho hms =>
    cases t with
    | comma => simpa [step, Progress.Follows] using Reached.key ho hms
    | closeObject => exact ho.follows_settle _ (.openObject :: _) (.object hms) fun _ => .object
    | _ => exact follows_stop _

/-- A closed tree is that of the tokens of one value, whatever follows them. -/
theorem Reached.exists_value {p : Place} (hr : Reached p fs b) (h : (arrange p fs ts).IsClosed) :
    ∃ ts₁ t ts₂, ts = ts₁ ++ t :: ts₂ ∧ t.Closing ∧ OneValue (b ++ (ts₁ ++ [t])) ∧
      ∀ ts', arrange p fs (ts₁ ++ t :: ts') = arrange p fs ts := by
  induction ts generalizing p fs b with
  | nil => exact (not_isClosed_stop _ _ _ h).elim
  | cons t ts ih =>
    have hstep := hr.follows_step t
    simp only [arrange_cons] at h ⊢
    rcases hp : step p fs t with tree | ⟨p', fs'⟩ <;> rw [hp] at hstep h
    · obtain ⟨ht, hv⟩ := hstep h
      exact ⟨[], t, ts, rfl, ht, hv, fun ts' => by rw [List.nil_append, arrange_cons, hp]; rfl⟩
    · obtain ⟨ts₁, t', ts₂, rfl, ht, hv, hx⟩ := ih hstep h
      refine ⟨t :: ts₁, t', ts₂, rfl, ht, by simpa using hv, fun ts' => ?_⟩
      rw [List.cons_append, arrange_cons, hp]
      exact hx ts'

/-- A text with a closed tree begins with a document that decides about the tree. -/
theorem exists_document {s : String} (h : (ofText s).IsClosed) :
    ∃ u rest, s = u ++ rest ∧ IsDocument u ∧ ∀ x, ofText (u ++ x) = ofText s := by
  obtain ⟨ts₁, t, ts₂, hts, ht, hv, hx⟩ := Reached.exists_value (.value .nil) h
  obtain ⟨u, rest, hs, hl, hu⟩ := exists_lexed ht hts
  refine ⟨.ofList u, .ofList rest, ?_, ⟨_, hv, by simpa using hl⟩, fun x => ?_⟩
  · rw [← String.ofList_append, ← hs, String.ofList_toList]
  · rw [ofText, String.toList_append, String.toList_ofList, hu]
    exact hx _

end Tree

end CorpusQuery.Json

namespace CorpusQuery.Record

open Json (Tree IsDocument)

theorem ending_eq_none {α : Type} {ending : Option Json.Fault} {k : Unit → Except Json.Problem α}
    {a : α} (h : orFault (Tree.checkEnding ending) >>= k = .ok a) : ending = none := by
  cases ending with
  | none => rfl
  | some f => cases h

/-- A plan is read only if its container ends by its bracket. -/
theorem isClosed_of_readPlan {room : Nat} {t : Tree} {p : Plan} (h : readPlan room t = .ok p) :
    t.IsClosed := by
  rw [readPlan.eq_def] at h
  split at h
  · next l => cases hl : l.read <;> rw [hl] at h <;> cases h
  · cases h
  · next room ts ending =>
    rcases ht : readTagged room none ts with _ | ⟨tag, ms⟩ <;> rw [ht] at h
    · cases h
    · exact ending_eq_none h
  · exact ending_eq_none h
  · next room t ts ending =>
    rcases ht : within (.entry 0) (readTag t) with _ | tag <;> rw [ht] at h
    · cases h
    rcases hes : orFault (Tree.wholeEntries room ts) with _ | es <;> rw [hes] at h
    · cases h
    · exact ending_eq_none h

/-- So is any other record. -/
theorem isClosed_of_readRecord {s : Schema} {room : Nat} {t : Tree} {fs : List Field}
    (h : readRecord s room t = .ok fs) : t.IsClosed := by
  rw [readRecord.eq_def] at h
  split at h
  · next l => cases hl : l.read <;> rw [hl] at h <;> cases h
  · cases h
  · next room ts ending =>
    rcases hf : readMembers room s [] ts with _ | found <;> rw [hf] at h
    · cases h
    · exact ending_eq_none h
  · next room ts ending =>
    rcases hf : readEntries room 0 s ts with _ | found <;> rw [hf] at h
    · cases h
    · exact ending_eq_none h

theorem isClosed_of_readRecord_bind {α : Type} {s : Schema} {room : Nat}
    {k : List Field → Except Json.Problem α} {t : Tree} {a : α}
    (h : readRecord s room t >>= k = .ok a) : t.IsClosed := by
  rcases hf : readRecord s room t with _ | fs <;> rw [hf] at h
  · cases h
  · exact isClosed_of_readRecord hf

end CorpusQuery.Record

namespace CorpusQuery

open Json (Tree IsDocument)
open Record (isClosed_of_readPlan isClosed_of_readRecord_bind)

/-! ## What the readers accept -/

/-- A reader accepts a text exactly if it begins with a whole document that the reader accepts,
whatever follows the document, and refuses every other text with one of these errors. -/
def ReadsFirst {α : Type} (parse : String → Except Error α) (refusal : Json.Problem → Error) :
    Prop :=
  ∀ s, (∀ a, parse s = .ok a ↔ ∃ u rest, s = u ++ rest ∧ IsDocument u ∧ parse u = .ok a) ∧
    ∀ e, parse s = .error e → ∃ p, e = refusal p

/-- A reader that sees the tree of a text only, and accepts none but closed ones. -/
theorem readsFirst_of_isClosed {α : Type} {read : Tree → Except Json.Problem α}
    (refusal : Json.Problem → Error) (hr : ∀ {t a}, read t = .ok a → t.IsClosed) :
    ReadsFirst (fun s => (read (.ofText s)).mapError refusal) refusal := by
  have hok : ∀ {t a}, (read t).mapError refusal = .ok a ↔ read t = .ok a := by
    intro t a
    cases read t <;> simp [Except.mapError]
  intro s
  refine ⟨fun a => ?_, fun e h => ?_⟩
  · simp only [hok]
    constructor
    · intro h
      obtain ⟨u, rest, rfl, hu, hx⟩ := Tree.exists_document (hr h)
      have hu' := hx ""
      rw [String.append_empty] at hu'
      exact ⟨u, rest, rfl, hu, by rwa [hu']⟩
    · rintro ⟨u, rest, rfl, -, h⟩
      -- of the document only what decides about its tree counts
      obtain ⟨v, rest', rfl, -, hx⟩ := Tree.exists_document (hr h)
      rwa [String.append_assoc, hx (rest' ++ rest), ← hx rest']
  · cases hs : read (.ofText s) with
    | error p =>
      simp only [hs, Except.mapError, Except.error.injEq] at h
      exact ⟨p, h.symm⟩
    | ok a => simp [hs, Except.mapError] at h

/-- None of the readers looks at what follows the first value of a text. -/
theorem parse_readsFirst (source : Source) :
    ReadsFirst (Plan.parse source) (.unreadable source false) ∧
      ReadsFirst (Plan.Ignore.parse source) (.unreadable source false) ∧
      ReadsFirst (Settings.parse source) (.unreadable source true) :=
  ⟨readsFirst_of_isClosed _ isClosed_of_readPlan,
    readsFirst_of_isClosed _ isClosed_of_readRecord_bind,
    readsFirst_of_isClosed _ isClosed_of_readRecord_bind⟩

/-- A plan, and a letter after it. -/
def strayLetter : String :=
  "\x7b\"@type\":\"All\",\"field\":\"t\"\x7d x"

/-- The letter after the plan goes unnoticed. -/
theorem parse_strayLetter :
    Plan.parse .string strayLetter = .ok (.everything "t") ∧ ¬ IsDocument strayLetter := by
  refine ⟨by decide +kernel, ?_⟩
  rintro ⟨ts, -, hl⟩
  have h := hl.endsIn 'x' rfl
  revert h
  decide

end CorpusQuery
