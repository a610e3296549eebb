import Mathlib.Data.List.Forall2
import CorpusQuery.Proofs.Records

/-!
# The wordings of a plan

A plan can be worded in JSON in other ways than the one in which it is written (`Record.Wording`):
the members of every object may stand in any order, with the tag anywhere among them, and a member
that says what its field is by default may be there or not. Defaults are that an item is not
optional, and that a sequence or a recurrence ignores nothing, for which `null` stands. All wordings
are decoded to the same plan. Members that tell rows (`Record.Told`), in any order, complete the
schema to these rows (`Told.build`); so a field is understood as soon as the plans in it are, which
settles all fields by induction (`understood`). What is written is one of the wordings
(`wording_json`).
-/

namespace CorpusQuery.Record

open Plan (Tag Item Ignore)

/-- The members tell what is in the rows, in their order: each field stands under its name, in one
of its wordings, or it is the default and left out. -/
inductive Told (W : Field → Json → Prop) : List (Slot × Field) → List (String × Json) → Prop
  | nil : Told W [] []
  | said {slot f j rows ms} : W f j → Told W rows ms →
      Told W ((slot, f) :: rows) ((slot.name, j) :: ms)
  | unsaid {slot f rows ms} : slot.default? = some f → Told W rows ms →
      Told W ((slot, f) :: rows) ms

/-- The wordings of a field. A field without plans in it has only the one in which it is written. -/
inductive Wording : Field → Json → Prop
  | plain {f} : f.parts = [] → Wording f f.json
  | plan {p ms l} : Told Wording (planRows p) ms →
      l.Perm ((Tag.key, .text p.tag.name) :: ms) → Wording (.plan p) (.object l)
  | plans {p ps j js} : Wording (.plan p) j → Wording (.plans ps) (.array js) →
      Wording (.plans (p :: ps)) (.array (j :: js))
  | items {i is ms l js} : Told Wording (itemRows i) ms → l.Perm ms →
      Wording (.items is) (.array js) → Wording (.items (i :: is)) (.array (.object l :: js))
  | ignore {g ms l} : Told Wording (ignoreRows g) ms → l.Perm ms →
      Wording (.ignore (some g)) (.object l)

/-! ## Members in any order -/

section Members

variable {W : Field → Json → Prop} {s : Schema} {rows : List (Slot × Field)}
  {ms l : List (String × Json)}

/-- The rows that are told, apart from those that are left out as defaults. -/
theorem Told.exists_kept (h : Told W rows ms) : ∃ kept : List (Slot × Field), kept.Sublist rows ∧
    List.Forall₂ (fun m r => m.1 = r.1.name ∧ W r.2 m.2) ms kept ∧
      ∀ r ∈ rows, r ∈ kept ∨ r.1.default? = some r.2 := by
  induction h with
  | nil => exact ⟨[], .slnil, .nil, by simp⟩
  | said hj _ ih =>
    obtain ⟨kept, hs, hm, hr⟩ := ih
    refine ⟨_ :: kept, hs.cons_cons _, .cons ⟨rfl, hj⟩ hm, List.forall_mem_cons.2 ⟨?_, ?_⟩⟩
    · exact .inl List.mem_cons_self
    · exact fun r hm => (hr r hm).imp_left (List.mem_cons_of_mem _)
  | unsaid hd _ ih =>
    obtain ⟨kept, hs, hm, hr⟩ := ih
    exact ⟨kept, hs.cons _, hm, List.forall_mem_cons.2 ⟨.inr hd, hr⟩⟩

theorem Told.exists_row (h : Told W rows ms) {m : String × Json} (hm : m ∈ ms) :
    ∃ r ∈ rows, m.1 = r.1.name ∧ W r.2 m.2 := by
  induction h with
  | nil => cases hm
  | said hj _ ih =>
    rcases List.mem_cons.1 hm with rfl | hm
    · exact ⟨_, List.mem_cons_self, rfl, hj⟩
    · obtain ⟨r, hr, h⟩ := ih hm
      exact ⟨r, List.mem_cons_of_mem _ hr, h⟩
  | unsaid _ _ ih =>
    obtain ⟨r, hr, h⟩ := ih hm
    exact ⟨r, List.mem_cons_of_mem _ hr, h⟩

theorem decodeMembers_of_forall₂ {kept : List (Slot × Field)}
    (h : List.Forall₂ (fun m r => m.1 = r.1.name ∧ W r.2 m.2) l kept)
    (hk : ∀ r ∈ kept, s.kind? r.1.name = some r.2.kind)
    (hd : ∀ r ∈ kept, ∀ j, W r.2 j → decode r.2.kind j = some r.2) :
    decodeMembers s l = some (kept.map fun r => (r.1.name, r.2)) := by
  induction h with
  | nil => rfl
  | @cons m r l kept hm _ ih =>
    obtain ⟨name, j⟩ := m
    obtain ⟨rfl, hj⟩ := hm
    rw [decodeMembers, hk r List.mem_cons_self]
    simp [hd r List.mem_cons_self j hj, ih (fun q hq => hk q (List.mem_cons_of_mem _ hq))
      fun q hq => hd q (List.mem_cons_of_mem _ hq)]

/-- What is built from the rows is built from members that tell them, in any order. -/
theorem Told.build {α : Type} {build? : List Field → Option α} {a : α} (h : Told W rows ms)
    (hl : l.Perm ms) (hs : s.Rows rows)
    (hd : ∀ f ∈ rows.map (·.2), ∀ j, W f j → decode f.kind j = some f)
    (ha : build? (rows.map (·.2)) = some a) :
    (decodeMembers s l).bind (fun fs => (s.complete fs).bind build?) = some a := by
  obtain ⟨kept', hsub, hms, hrows⟩ := h.exists_kept
  obtain ⟨kept, hlk, hp⟩ := List.perm_comp_forall₂ hl hms
  have hk : kept.Subperm rows := hp.subperm.trans hsub.subperm
  have hfs : decodeMembers s l = some (kept.map fun r => (r.1.name, r.2)) :=
    decodeMembers_of_forall₂ hlk (fun r hr => hs.kind? (hk.subset hr))
      fun r hr => hd r.2 (List.mem_map_of_mem (hk.subset hr))
  have hc := hs.complete_kept hk fun r hr => (hrows r hr).imp_left hp.mem_iff.2
  rw [hfs, Option.bind_some, hc, Option.bind_some, ha]

/-- What is written tells the rows. -/
theorem told_members (hs : ∀ r ∈ rows, r.2.isUnsaid = true → r.1.default? = some r.2)
    (hw : ∀ f ∈ rows.map (·.2), W f f.json) : Told W rows (members rows) := by
  induction rows with
  | nil => exact .nil
  | cons r rows ih =>
    have ih := ih (fun q hq => hs q (List.mem_cons_of_mem _ hq))
      fun f hf => hw f (List.mem_cons_of_mem _ hf)
    cases hu : r.2.isUnsaid with
    | true =>
      have hm : members (r :: rows) = members rows := by simp [members, said, hu]
      exact hm ▸ .unsaid (hs r List.mem_cons_self hu) ih
    | false =>
      have hm : members (r :: rows) = (r.1.name, r.2.json) :: members rows := by
        simp [members, said, hu]
      exact hm ▸ .said (hw r.2 List.mem_cons_self) ih

end Members

/-- The way in which a field is written is one of its wordings. -/
theorem wording_json (f : Field) : Wording f f.json := by
  induction f using Field.induction with
  | step f ih =>
    have hp : ∀ p ∈ f.parts, Wording (.plan p) p.toJson := by
      intro p hp
      have hw : ∀ f ∈ (planRows p).map (·.2), Wording f f.json := map_snd_planRows p ▸ ih p hp
      rw [toJson_eq_tagged]
      exact .plan (told_members (rows_planRows p).defaults hw) (.refl _)
    clear ih
    cases f with
    | plan p => exact hp p (List.mem_singleton_self p)
    | plans ps =>
      induction ps with
      | nil => exact .plain rfl
      | cons p ps ih =>
        exact .plans (hp p List.mem_cons_self) (ih fun q hq => hp q (List.mem_cons_of_mem _ hq))
    | items is =>
      induction is with
      | nil => exact .plain rfl
      | cons i is ih =>
        have hw : ∀ f ∈ [Field.plan i.plan, .flag i.optional], Wording f f.json :=
          List.forall_mem_cons.2 ⟨hp i.plan List.mem_cons_self,
            List.forall_mem_singleton.2 (.plain rfl)⟩
        have his := ih fun p hm => hp p (List.mem_cons_of_mem _ hm)
        rw [Field.json, itemsToJson_cons]
        exact .items (told_members (rows_itemRows i).defaults hw) (.refl _) his
    | ignore g =>
      cases g with
      | none => exact .plain rfl
      | some g =>
        have hw : ∀ f ∈ [Field.plan g.plan, .count g.maxSkip], Wording f f.json :=
          List.forall_mem_cons.2 ⟨hp g.plan (List.mem_singleton_self _),
            List.forall_mem_singleton.2 (.plain rfl)⟩
        exact .ignore (told_members (rows_ignoreRows g).defaults hw) (.refl _)
    | _ => exact .plain rfl

/-! ## The tag among the members -/

section Tagged

variable {t : Tag} {pre post : List (String × Json)}

theorem exists_of_perm_cons {α : Type} {a : α} {l l' : List α} (h : l.Perm (a :: l')) :
    ∃ pre post, l = pre ++ a :: post ∧ (pre ++ post).Perm l' := by
  obtain ⟨pre, post, rfl⟩ := List.append_of_mem (h.symm.subset List.mem_cons_self)
  exact ⟨pre, post, rfl, (List.perm_middle.symm.trans h).cons_inv⟩

theorem tagOf?_among (h : ∀ m ∈ pre ++ post, m.1 ≠ Tag.key) :
    tagOf? (pre ++ (Tag.key, .text t.name) :: post) = some t := by
  have h1 : ∀ l : List (String × Json), (∀ m ∈ l, m.1 ≠ Tag.key) →
      l.filter (·.1 == Tag.key) = [] :=
    fun l hl => List.filter_eq_nil_iff.2 fun m hm => by simpa using hl m hm
  rw [tagOf?, List.filter_append, List.filter_cons, if_pos (beq_self_eq_true _),
    h1 pre fun m hm => h m (List.mem_append_left _ hm),
    h1 post fun m hm => h m (List.mem_append_right _ hm)]
  exact Tag.ofName?_name t

theorem decodeMembers_among (t : Tag) (e : Json) (post : List (String × Json)) :
    ∀ pre, decodeMembers t.schema (pre ++ (Tag.key, e) :: post)
      = decodeMembers t.schema (pre ++ post)
  | [] => decodeMembers_key t e post
  | (name, j) :: pre => by
    rw [List.cons_append, List.cons_append, decodeMembers, decodeMembers,
      decodeMembers_among t e post pre]

end Tagged

/-! ## Decoding -/

theorem decodes_count (n : UInt64) : Decodes (.count n) := by
  have : word? (n.toNat : Int) = some n := by
    rw [word?, if_pos ⟨Int.natCast_nonneg _, Int.ofNat_lt.2 n.toNat_lt⟩]
    simp
  simp [Decodes, Field.kind, Field.json, Json.natural, decode, decodeScalar, this]

theorem decodes_integer (i : Int64) : Decodes (.integer i) := by
  have : signedWord? i.toInt = some i := by
    rw [signedWord?, if_pos ⟨i.minValue_le_toInt, i.toInt_le⟩]
    simp
  simp [Decodes, Field.kind, Field.json, Json.integer, decode, decodeScalar, this]

theorem decodes_texts (ss : List String) : Decodes (.texts ss) := by
  have : (ss.map Json.text).mapM text? = some (ss.map id) := mapM_map_eq_some fun _ _ => rfl
  show ((ss.map Json.text).mapM text?).map _ = _
  rw [this, List.map_id]
  rfl

theorem decodes_comparison (r : Comparison) : Decodes (.comparison r) := by
  show (Comparison.ofName? r.name).map _ = _
  rw [Comparison.ofName?_name]
  rfl

theorem Wording.eq_json {f : Field} {j : Json} (h : Wording f j) (hf : f.parts = []) :
    j = f.json := by
  cases h <;> first | rfl | simp [Field.parts] at hf

/-- Every wording of the field is decoded to the field. -/
def Understood (f : Field) : Prop :=
  ∀ j, Wording f j → decode f.kind j = some f

theorem understood_of_parts {f : Field} (hf : f.parts = []) : Understood f := by
  have hd : Decodes f := by
    cases f with
    | flag | text => rfl
    | optionalText s => cases s <;> rfl
    | count n => exact decodes_count n
    | integer i => exact decodes_integer i
    | texts ss => exact decodes_texts ss
    | comparison r => exact decodes_comparison r
    | plan p => cases hf
    | plans ps =>
      obtain rfl : ps = [] := hf
      rfl
    | items is =>
      obtain rfl := List.map_eq_nil_iff.1 hf
      rfl
    | ignore g =>
      cases g with
      | none => rfl
      | some g => cases hf
  exact fun j h => h.eq_json hf ▸ hd

theorem ne_key_of_told {W : Field → Json → Prop} {p : Plan} {ms : List (String × Json)}
    (h : Told W (planRows p) ms) : ∀ m ∈ ms, m.1 ≠ Tag.key := by
  intro m hm
  obtain ⟨r, hr, he, -⟩ := h.exists_row hm
  rw [he]
  refine ne_key_of_mem_schema (t := p.tag) ?_
  rw [← (rows_planRows p).slots]
  exact List.mem_map_of_mem hr

theorem told_plan {p : Plan} {ms l : List (String × Json)} (h : ∀ f ∈ p.fields, Understood f)
    (hms : Told Wording (planRows p) ms) (hl : l.Perm ms) :
    (decodeMembers p.tag.schema l).bind (plan? p.tag) = some p := by
  refine hms.build hl (rows_planRows p) ?_ ?_ <;> rw [map_snd_planRows]
  · exact h
  · exact Plan.build?_fields p

theorem understood_plan {p : Plan} (h : ∀ f ∈ p.fields, Understood f) : Understood (.plan p) := by
  intro j hj
  cases hj with
  | plain hp => cases hp
  | plan hms hl =>
    obtain ⟨pre, post, rfl, hrest⟩ := exists_of_perm_cons hl
    have hne : ∀ m ∈ pre ++ post, m.1 ≠ Tag.key :=
      fun m hm => ne_key_of_told hms m (hrest.subset hm)
    obtain ⟨fs, hfs, hp⟩ := Option.bind_eq_some_iff.1 (told_plan h hms hrest)
    show decode .plan _ = _
    rw [decode, tagOf?_among hne]
    simp [decodeMembers_among, hfs, hp]

theorem understood_plans {ps : List Plan} (h : ∀ p ∈ ps, Understood (.plan p)) :
    Understood (.plans ps) := by
  have : ∀ j, Wording (.plans ps) j → ∃ js, j = .array js ∧ decodePlans js = some ps := by
    induction ps with
    | nil => exact fun j hj => ⟨[], hj.eq_json rfl, rfl⟩
    | cons p ps ih =>
      intro j hj
      cases hj with
      | plain hp => cases hp
      | plans hj hjs =>
        have hp : decode .plan _ = some (.plan p) := h p List.mem_cons_self _ hj
        obtain ⟨js, ⟨⟩, hps⟩ := ih (fun q hq => h q (List.mem_cons_of_mem _ hq)) _ hjs
        exact ⟨_, rfl, by rw [decodePlans, hp]; simp [hps]⟩
  intro j hj
  obtain ⟨js, rfl, hps⟩ := this j hj
  show (decodePlans js).map _ = _
  rw [hps]
  rfl

theorem told_item {i : Item} {ms l : List (String × Json)} (h : Understood (.plan i.plan))
    (hms : Told Wording (itemRows i) ms) (hl : l.Perm ms) :
    (decodeMembers Item.schema l).bind item? = some i := by
  have hd : ∀ f ∈ [Field.plan i.plan, .flag i.optional], Understood f :=
    List.forall_mem_cons.2 ⟨h, List.forall_mem_singleton.2 (understood_of_parts rfl)⟩
  exact hms.build hl (rows_itemRows i) hd (build?_item i)

theorem understood_items {is : List Item} (h : ∀ i ∈ is, Understood (.plan i.plan)) :
    Understood (.items is) := by
  have : ∀ j, Wording (.items is) j → ∃ js, j = .array js ∧ decodeItems js = some is := by
    induction is with
    | nil => exact fun j hj => ⟨[], hj.eq_json rfl, rfl⟩
    | cons i is ih =>
      intro j hj
      cases hj with
      | plain hp => cases hp
      | items hms hl hjs =>
        obtain ⟨fs, hfs, hi⟩ :=
          Option.bind_eq_some_iff.1 (told_item (h i List.mem_cons_self) hms hl)
        obtain ⟨js, ⟨⟩, his⟩ := ih (fun i hi => h i (List.mem_cons_of_mem _ hi)) _ hjs
        exact ⟨_, rfl, by rw [decodeItems]; simp [hfs, hi, his]⟩
  intro j hj
  obtain ⟨js, rfl, his⟩ := this j hj
  show (decodeItems js).map _ = _
  rw [his]
  rfl

theorem understood_ignore {g : Ignore} (h : Understood (.plan g.plan)) :
    Understood (.ignore (some g)) := by
  intro j hj
  have hd : ∀ f ∈ [Field.plan g.plan, .count g.maxSkip], Understood f :=
    List.forall_mem_cons.2 ⟨h, List.forall_mem_singleton.2 (understood_of_parts rfl)⟩
  cases hj with
  | plain hp => cases hp
  | ignore hms hl =>
    obtain ⟨fs, hfs, hg⟩ :=
      Option.bind_eq_some_iff.1 (hms.build hl (rows_ignoreRows g) hd (build?_ignore g))
    have hg' : ignore? fs = some g := hg
    show decode .ignore _ = _
    rw [decode]
    simp [hfs, hg']

/-- Every wording of every field is decoded to the field. -/
theorem understood (f : Field) : Understood f := by
  induction f using Field.induction with
  | step f ih =>
    have hp : ∀ p ∈ f.parts, Understood (.plan p) := fun p hp => understood_plan (ih p hp)
    cases f with
    | plan p => exact hp p (List.mem_singleton_self p)
    | plans ps => exact understood_plans hp
    | items is => exact understood_items fun i hi => hp i.plan (List.mem_map_of_mem hi)
    | ignore g =>
      cases g with
      | none => exact understood_of_parts rfl
      | some g => exact understood_ignore (hp g.plan (List.mem_singleton_self _))
    | _ => exact understood_of_parts rfl

/-- Every field is decoded from what it is written as. -/
theorem decodes (f : Field) : Decodes f :=
  understood f _ (wording_json f)

end CorpusQuery.Record
