import Mathlib.Tactic.SplitIfs
import CorpusQuery.Document
import CorpusQuery.Proofs.Arrangement
import CorpusQuery.Proofs.Wordings

/-!
# Reading what was written

Plans, ignore clauses and settings are read back from their text, in either layout, and plans from
any other text that words them. A text that opens too many containers at once is refused, and never
read as another value. Readers meet no fault in the tree of a value but a lack of room
(`readTagged_ofMembers`, `readMembers_members`), and what they find in it fits (`Record.understood`,
`Record.decodes`).
-/

namespace CorpusQuery

open Json (Tree depthMembers Integral)
open Json.Tree (ofJson ofMembers)

namespace Record

open Plan (Tag Ignore)

/-! ## Numbers -/

theorem integral_natural (n : UInt64) : (Json.natural n).Integral := by
  have hn := n.toNat_lt
  refine .number ⟨?_, Int.ofNat_lt.2 hn⟩
  have : Int64.minValue.toInt ≤ 0 := by decide
  omega

theorem integral_integer (i : Int64) : (Json.integer i).Integral := by
  have hi := i.toInt_lt
  refine .number ⟨i.minValue_le_toInt, ?_⟩
  have : (2 : Int) ^ 63 ≤ UInt64.size := by decide
  omega

theorem integral_members {rows : List (Slot × Field)} (h : ∀ f ∈ rows.map (·.2), f.json.Integral) :
    ∀ m ∈ members rows, m.2.Integral := by
  intro m hm
  obtain ⟨r, hr, rfl⟩ := List.mem_map.1 hm
  exact h r.2 (List.mem_map_of_mem (mem_said hr))

theorem integral_toJson {p : Plan} (h : ∀ f ∈ p.fields, f.json.Integral) : p.toJson.Integral := by
  rw [← map_snd_planRows] at h
  rw [toJson_eq_tagged]
  exact .object (List.forall_mem_cons.2 ⟨.text _, integral_members h⟩)

theorem integral_record (rows : List (Slot × Field)) {p : Plan} {f : Field}
    (hrows : rows.map (·.2) = [.plan p, f]) (hp : p.toJson.Integral) (hf : f.json.Integral) :
    (Json.object (members rows)).Integral := by
  refine .object (integral_members ?_)
  rw [hrows]
  exact List.forall_mem_cons.2 ⟨hp, List.forall_mem_singleton.2 hf⟩

/-- The numbers in what a field is written as fit a word. -/
theorem integral_json (f : Field) : f.json.Integral := by
  induction f using Field.induction with
  | step f ih =>
    have hp : ∀ p ∈ f.parts, p.toJson.Integral := fun p hp => integral_toJson (ih p hp)
    cases f with
    | flag b => exact .bool b
    | count n => exact integral_natural n
    | integer i => exact integral_integer i
    | text s => exact .text s
    | optionalText s =>
      cases s with
      | none => exact .null
      | some s => exact .text s
    | texts ss => exact .array (List.forall_mem_map.2 fun s _ => .text s)
    | comparison r => exact .text r.name
    | plan p => exact hp p (List.mem_singleton_self p)
    | plans ps =>
      refine .array ?_
      rw [toJsons_eq_map]
      exact List.forall_mem_map.2 hp
    | items is =>
      refine .array ?_
      have : ∀ i ∈ is, i.plan.toJson.Integral := fun i hi => hp i.plan (List.mem_map_of_mem hi)
      clear hp ih
      induction is with
      | nil => exact nofun
      | cons i is ih =>
        rw [itemsToJson_cons]
        have hi := integral_record (itemRows i) rfl (this i List.mem_cons_self) (.bool _)
        exact List.forall_mem_cons.2 ⟨hi, ih fun j hj => this j (List.mem_cons_of_mem _ hj)⟩
    | ignore g =>
      cases g with
      | none => exact .null
      | some g =>
        exact integral_record (ignoreRows g) rfl (hp g.plan (List.mem_singleton_self _))
          (integral_natural _)

/-! ## Plans -/

/-- Where nothing is wrong, reading goes on with what is read. -/
theorem orFault_of_bind {α β : Type} (a : α) (f : α → Except Json.Problem β) :
    (orFault (Json.Lexeme.of a).read >>= f) = f a :=
  rfl

theorem readTagged_ofMembers (room : Nat) (seen : Option Tag) :
    ∀ {ms : List (String × Json)}, (∀ m ∈ ms, m.1 ≠ Tag.key) →
      readTagged room seen (ofMembers ms)
        = if depthMembers ms ≤ room then .ok (seen, ms) else .error (.fault .malformed)
  | [], _ => by simp [ofMembers, readTagged, depthMembers]
  | (k, e) :: ms, h => by
    have hk : k ≠ Tag.key := h (k, e) List.mem_cons_self
    have ih := readTagged_ofMembers room seen fun m hm => h m (List.mem_cons_of_mem _ hm)
    rw [ofMembers, readTagged, orFault_of_bind, if_neg hk, Json.Tree.whole_ofJson, ih, depthMembers]
    split_ifs <;> first | rfl | omega

theorem readTag_ofJson (t : Tag) : readTag (ofJson (.text t.name)) = .ok t := by
  show orUnfit (Tag.ofName? t.name) = _
  rw [Tag.ofName?_name]
  rfl

theorem readTagged_key (room : Nat) (t : Tag) (ms : List (String × Json)) :
    readTagged room none (ofMembers ((Tag.key, .text t.name) :: ms))
      = readTagged room (some t) (ofMembers ms) := by
  rw [ofMembers, readTagged, orFault_of_bind, if_pos rfl, readTag_ofJson]
  rfl

theorem depthMembers_append : ∀ l l' : List (String × Json),
    depthMembers (l ++ l') = max (depthMembers l) (depthMembers l')
  | [], l' => by simp [depthMembers]
  | (k, e) :: l, l' => by
    rw [List.cons_append, depthMembers, depthMembers, depthMembers_append l l', Nat.max_assoc]

/-- The tag is found anywhere among the members, which are kept in their order. -/
theorem readTagged_among (room : Nat) (t : Tag) {post : List (String × Json)}
    (hpost : ∀ m ∈ post, m.1 ≠ Tag.key) :
    ∀ {pre : List (String × Json)}, (∀ m ∈ pre, m.1 ≠ Tag.key) →
      readTagged room none (ofMembers (pre ++ (Tag.key, .text t.name) :: post))
        = if depthMembers (pre ++ post) ≤ room then .ok (some t, pre ++ post)
          else .error (.fault .malformed)
  | [], _ => by
    rw [List.nil_append, readTagged_key, readTagged_ofMembers room _ hpost]
    rfl
  | (k, e) :: pre, h => by
    have hk : k ≠ Tag.key := h (k, e) List.mem_cons_self
    have ih := readTagged_among room t hpost fun m hm => h m (List.mem_cons_of_mem _ hm)
    rw [List.cons_append, List.cons_append, ofMembers, readTagged, orFault_of_bind, if_neg hk,
      Json.Tree.whole_ofJson, ih, depthMembers]
    split_ifs <;> first | rfl | omega

/-- A plan is read out of the tree of any of its wordings if there is room for it. -/
theorem readPlan_wording {p : Plan} {j : Json} (h : Wording (.plan p) j) (room : Nat) :
    readPlan room (ofJson j)
      = if j.depth ≤ room then .ok p else .error (.fault .malformed) := by
  cases h with
  | plain hp => cases hp
  | plan hms hl =>
    obtain ⟨pre, post, rfl, hrest⟩ := exists_of_perm_cons hl
    have hne : ∀ m ∈ pre ++ post, m.1 ≠ Tag.key :=
      fun m hm => ne_key_of_told hms m (hrest.subset hm)
    have hp := told_plan (fun f _ => understood f) hms hrest
    have hd : depthMembers (pre ++ (Tag.key, .text p.tag.name) :: post)
        = depthMembers (pre ++ post) := by
      simp [depthMembers_append, depthMembers, Json.text, Json.depth]
    cases room with
    | zero => rfl
    | succ room =>
      rw [ofJson, readPlan, readTagged_among room p.tag
        (fun m hm => hne m (List.mem_append_right _ hm))
        fun m hm => hne m (List.mem_append_left _ hm), Json.depth, hd]
      simp only [Nat.add_le_add_iff_right]
      split_ifs
      · show orUnfit ((decodeMembers p.tag.schema (pre ++ post)).bind (plan? p.tag)) = _
        rw [hp]
        rfl
      · rfl

theorem readPlan_toJson (p : Plan) (room : Nat) :
    readPlan room (ofJson p.toJson)
      = if p.toJson.depth ≤ room then .ok p else .error (.fault .malformed) :=
  readPlan_wording (wording_json (.plan p)) room

/-! ## Other records -/

/-- A field is read if there is room for it. -/
def Reads (f : Field) : Prop :=
  ∀ room, readField room f.kind (ofJson f.json)
    = if f.json.depth ≤ room then .ok f else .error (.fault .malformed)

theorem reads_plan (p : Plan) : Reads (.plan p) := by
  intro room
  show (readPlan room (ofJson p.toJson)).map Field.plan
    = if p.toJson.depth ≤ room then _ else _
  rw [readPlan_toJson]
  split_ifs <;> rfl

theorem readField_scalar {k : Kind} (h : k ≠ .plan) (room : Nat) (s : Json.Scalar) :
    readField room k (ofJson (.scalar s)) = orUnfit (decodeScalar k s) := by
  cases k <;> first | contradiction | rfl

theorem reads_scalar {f : Field} {s : Json.Scalar} (h : f.json = .scalar s) : Reads f := by
  intro room
  have hk : f.kind ≠ .plan := by
    intro hk
    cases f <;> simp [Field.kind] at hk
    simp [Field.json, toJson_eq_tagged, Plan.tagged] at h
  have hd : decodeScalar f.kind s = some f := by
    have := decodes f
    rwa [Decodes, h, decode] at this
  rw [h, readField_scalar hk, hd]
  rfl

variable {s : Schema} {rows : List (Slot × Field)}

/-- No name comes twice among the members. -/
theorem Schema.Rows.not_found (h : s.Rows rows) {l l' : List (Slot × Field)} {r : Slot × Field}
    (hl : said rows = l ++ r :: l') :
    (l.map fun r => (r.1.name, r.2)).any (·.1 == r.1.name) = false := by
  have hn : ((said rows).map (·.1.name)).Nodup :=
    h.nodup.sublist (List.filter_sublist.map _)
  rw [hl, List.map_append, List.map_cons, List.nodup_append] at hn
  rw [List.any_eq_false]
  intro f hf
  obtain ⟨q, hq, rfl⟩ := List.mem_map.1 hf
  have hne : q.1.name ≠ r.1.name :=
    hn.2.2 _ (List.mem_map_of_mem hq) _ List.mem_cons_self
  simpa using hne

theorem readMembers_cons {name : String} {k : Kind} {found : List (String × Field)}
    (hk : s.kind? name = some k) (hnew : found.any (·.1 == name) = false) (room : Nat) (t : Tree)
    (ts : List (Json.Lexeme String × Tree)) :
    readMembers room s found ((.of name, t) :: ts) = (do
      let f ← within (.key name) (readField room k t)
      readMembers room s (found ++ [(name, f)]) ts) := by
  rw [readMembers, orFault_of_bind]
  simp only [hk, hnew, Bool.false_eq_true, if_false]

/-- The members of a record are read one by one, if there is room for them. -/
theorem readMembers_members (h : s.Rows rows) (hr : ∀ r ∈ rows, Reads r.2) (room : Nat) :
    ∀ l l' : List (Slot × Field), said rows = l ++ l' →
      readMembers room s (l.map fun r => (r.1.name, r.2))
          (ofMembers (l'.map fun r => (r.1.name, r.2.json)))
        = if depthMembers (l'.map fun r => (r.1.name, r.2.json)) ≤ room then .ok (found rows)
          else .error (.fault .malformed)
  | l, [], hl => by
    rw [List.append_nil] at hl
    simp [ofMembers, readMembers, depthMembers, found, hl]
  | l, r :: l', hl => by
    have hm : r ∈ rows := mem_said (hl ▸ by simp)
    have ih := readMembers_members h hr room (l ++ [r]) l' (by simpa using hl)
    rw [List.map_append] at ih
    rw [List.map_cons, ofMembers, readMembers_cons (h.kind? hm) (h.not_found hl), hr r hm,
      depthMembers]
    by_cases hd : r.2.json.depth ≤ room
    · rw [if_pos hd]
      refine Eq.trans ih ?_
      simp only [Nat.max_le, hd, true_and]
    · rw [if_neg hd, if_neg (by omega)]
      rfl

theorem readRecord_object (h : s.Rows rows) (hr : ∀ r ∈ rows, Reads r.2) (room : Nat) :
    readRecord s room (ofJson (.object (members rows)))
      = if (Json.object (members rows)).depth ≤ room then .ok (rows.map (·.2))
        else .error (.fault .malformed) := by
  cases room with
  | zero => rfl
  | succ room =>
    have hm := readMembers_members h hr room [] (said rows) rfl
    rw [ofJson, readRecord, Json.depth]
    simp only [Nat.add_le_add_iff_right]
    rw [members, show readMembers room s [] _ = _ from hm]
    split_ifs
    · show orUnfit (s.complete (found rows)) = _
      rw [h.complete_found]
      rfl
    · rfl

/-- The rows of settings. -/
def settingsRows (c : Settings) : List (Slot × Field) :=
  Settings.schema.zip [.flag c.debug, .optionalText c.workdir, .count c.maxSkip, .flag c.compact]

theorem rows_settingsRows (c : Settings) : Settings.schema.Rows (settingsRows c) where
  slots := rfl
  kinds := by simp [settingsRows, Settings.schema, Field.kind]
  defaults := by simp [settingsRows, Settings.schema, Field.isUnsaid]
  names := by decide

theorem settings_toJson_eq (c : Settings) : c.toJson = .object (members (settingsRows c)) := by
  obtain ⟨debug, _ | d, n, compact⟩ := c <;> rfl

theorem depth_settings (c : Settings) : c.toJson.depth = 1 := by
  obtain ⟨debug, _ | d, n, compact⟩ := c <;> rfl

theorem reads_settings (c : Settings) : ∀ r ∈ settingsRows c, Reads r.2 := by
  have hd : Reads (.optionalText c.workdir) := by
    cases hw : c.workdir with
    | none => exact reads_scalar rfl
    | some d => exact reads_scalar rfl
  have : ∀ f ∈ (settingsRows c).map (·.2), Reads f := by
    rintro f (_ | ⟨_, _ | ⟨_, _ | ⟨_, _ | ⟨_, ⟨⟩⟩⟩⟩⟩)
    · exact reads_scalar rfl
    · exact hd
    · exact reads_scalar rfl
    · exact reads_scalar rfl
  exact fun r hr => this r.2 (List.mem_map_of_mem hr)

theorem reads_ignore (g : Ignore) : ∀ r ∈ ignoreRows g, Reads r.2 := by
  have : ∀ f ∈ (ignoreRows g).map (·.2), Reads f := by
    rintro f (_ | ⟨_, _ | ⟨_, ⟨⟩⟩⟩)
    · exact reads_plan g.plan
    · exact reads_scalar rfl
  exact fun r hr => this r.2 (List.mem_map_of_mem hr)

end Record

/-! ## Texts -/

open Record

theorem Plan.parse_of_tree (src : Source) {p : Plan} {j : Json} {text : String}
    (hj : Wording (.plan p) j) (ht : Tree.ofText text = ofJson j) :
    parse src text
      = if j.depth ≤ 127 then .ok p else .error (.unreadable src false (.fault .malformed)) := by
  rw [parse, ht, readPlan_wording hj]
  show Except.mapError _ (if j.depth ≤ 127 then _ else _) = _
  split_ifs <;> rfl

theorem Plan.parse_render (src : Source) (l : Json.Layout) (p : Plan) :
    parse src (p.toJson.render l)
      = if p.toJson.depth ≤ 127 then .ok p
        else .error (.unreadable src false (.fault .malformed)) := by
  have hi : p.toJson.Integral := integral_json (.plan p)
  exact parse_of_tree src (wording_json (.plan p)) (Json.Tree.ofText_render hi l)

theorem Plan.Ignore.parse_render (src : Source) (l : Json.Layout) (g : Plan.Ignore) :
    parse src (g.toJson.render l)
      = if g.toJson.depth ≤ 127 then .ok g
        else .error (.unreadable src false (.fault .malformed)) := by
  have hi : g.toJson.Integral := integral_json (.ignore (some g))
  have hr := readRecord_object (rows_ignoreRows g) (reads_ignore g) Json.maxDepth
  rw [← ignore_toJson_eq] at hr
  rw [parse, Json.Tree.ofText_render hi, hr]
  show Except.mapError _ ((if g.toJson.depth ≤ 127 then _ else _) >>= _) = _
  split_ifs
  · show Except.mapError _ (orUnfit (Plan.Ignore.build? ((ignoreRows g).map (·.2)))) = _
    rw [build?_ignore]
    rfl
  · rfl

theorem Settings.parse_render (src : Source) (l : Json.Layout) (d : Settings) :
    parse src (d.toJson.render l) = .ok d := by
  have hi : d.toJson.Integral := by
    rw [settings_toJson_eq]
    exact .object (integral_members fun f _ => integral_json f)
  have hr := readRecord_object (rows_settingsRows d) (reads_settings d) Json.maxDepth
  rw [← settings_toJson_eq, depth_settings, if_pos (by decide)] at hr
  rw [parse, Json.Tree.ofText_render hi, hr]
  rfl

/-- A text that is written for a plan, an ignore clause or settings is read as the very same, unless
it opens more than 127 containers at once; then it is refused. -/
theorem Document.parse_text (c : Settings) :
    (∀ p : Plan, Plan.parse .string ((ofPlan p).text c.layout)
        = if p.toJson.depth ≤ 127 then .ok p
          else .error (.unreadable .string false (.fault .malformed))) ∧
      (∀ g : Plan.Ignore, Plan.Ignore.parse .string ((ofIgnore g).text c.layout)
        = if g.toJson.depth ≤ 127 then .ok g
          else .error (.unreadable .string false (.fault .malformed))) ∧
      ∀ d : Settings, Settings.parse .string ((ofSettings d).text c.layout) = .ok d :=
  ⟨Plan.parse_render _ _, Plan.Ignore.parse_render _ _, Settings.parse_render _ _⟩

/-- A text that words a plan, in whichever order of members and with any blanks, is read as the
plan, unless it opens more than 127 containers at once. -/
theorem Plan.parse_of_wording (src : Source) {p : Plan} {j : Json} {text : String}
    (hj : Wording (.plan p) j) (ht : Json.Spelled j.toTokens text.toList) :
    parse src text
      = if j.depth ≤ 127 then .ok p
        else .error (.unreadable src false (.fault .malformed)) := by
  exact parse_of_tree src hj (Json.Tree.ofText_of_spelled ht)

/-- A sequence whose tag comes last, with its default said and the default of its item left out. -/
def Record.lastTagged : Json :=
  .object [("ignore", .null),
    ("items", .array [.object
      [("query", .object [("field", .text "text"), (Plan.Tag.key, .text "All")])]]),
    (Plan.Tag.key, .text "Sequence")]

theorem Plan.parse_of_wording_lastTagged :
    Wording (.plan (.sequence [⟨.everything "text", false⟩] none)) lastTagged ∧
      Json.Spelled lastTagged.toTokens (lastTagged.render .pretty).toList ∧
      parse .string (lastTagged.render .pretty)
        = .ok (.sequence [⟨.everything "text", false⟩] none) := by
  have hq : Wording (.plan (.everything "text"))
      (.object [("field", .text "text"), (Tag.key, .text "All")]) :=
    .plan (.said (.plain rfl) .nil) (.swap _ _ _)
  have hi : Wording (.items [⟨.everything "text", false⟩])
      (.array [.object [("query", .object [("field", .text "text"), (Tag.key, .text "All")])]]) :=
    .items (.said hq (.unsaid rfl .nil)) (.refl _) (.plain rfl)
  have hj : Wording (.plan (.sequence [⟨.everything "text", false⟩] none)) lastTagged :=
    .plan (.said hi (.said (.plain rfl) .nil)) (List.reverse_perm [_, _, _])
  have hn : lastTagged.Integral :=
    .object (List.forall_mem_cons.2 ⟨.null, List.forall_mem_cons.2
      ⟨.array (List.forall_mem_singleton.2 (.object (List.forall_mem_singleton.2
          (.object (List.forall_mem_cons.2 ⟨.text _, List.forall_mem_singleton.2 (.text _)⟩))))),
        List.forall_mem_singleton.2 (.text _)⟩⟩)
  have ht := Json.spelled_render hn .pretty
  exact ⟨hj, ht, parse_of_wording .string hj ht⟩

end CorpusQuery
