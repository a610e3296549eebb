import Mathlib.Data.List.Nodup
import Mathlib.Data.List.Perm.Subperm
import CorpusQuery.Record.Decoding

/-!
# What is written fits its schema

A record is written as the members of its fields (`Record.members`), each under the name that the
schema has for it; a plan that ignores nothing does not say so. Whichever fields are found under
their names, in any order, they complete the schema to the record, as long as the others have their
defaults (`Schema.Rows.complete_kept`). What holds of a field as soon as it holds of the fields of
the plans in it holds of all fields (`Field.induction`).
-/

namespace CorpusQuery.Record

open Plan (Tag)

/-! ## Fields -/

namespace Field

/-- The kind of a field. -/
def kind : Field → Kind
  | flag _ => .flag
  | count _ => .count
  | integer _ => .integer
  | text _ => .text
  | optionalText _ => .optionalText
  | texts _ => .texts
  | comparison _ => .comparison
  | plan _ => .plan
  | plans _ => .plans
  | items _ => .items
  | ignore _ => .ignore

/-- The value that a field is written as. -/
def json : Field → Json
  | flag b => .bool b
  | count n => .natural n
  | integer i => .integer i
  | text s => .text s
  | optionalText none => .null
  | optionalText (some s) => .text s
  | texts ss => .array (ss.map .text)
  | comparison r => .text r.name
  | plan p => p.toJson
  | plans ps => .array (Plan.toJsons ps)
  | items is => .array (Plan.itemsToJson is)
  | ignore none => .null
  | ignore (some g) => g.toJson

/-- Whether a record leaves the field out when it is written. -/
def isUnsaid : Field → Bool
  | ignore none => true
  | _ => false

theorem isUnsaid_iff {f : Field} : f.isUnsaid = true ↔ f = ignore none := by
  unfold isUnsaid
  split <;> simp_all

/-- The plans that stand in the field itself. -/
def parts : Field → List Plan
  | plan p => [p]
  | plans ps => ps
  | items is => is.map (·.plan)
  | ignore (some g) => [g.plan]
  | _ => []

theorem sizeOf_parts_lt {f : Field} {p : Plan} (h : p ∈ f.parts) : sizeOf p < sizeOf f := by
  unfold parts at h
  split at h
  · obtain rfl := List.mem_singleton.1 h
    decreasing_tactic
  · have := List.sizeOf_lt_of_mem h
    simp
    omega
  · obtain ⟨⟨q, b⟩, hi, rfl⟩ := List.mem_map.1 h
    have := List.sizeOf_lt_of_mem hi
    simp at this ⊢
    omega
  · rename_i g
    obtain rfl := List.mem_singleton.1 h
    obtain ⟨q, n⟩ := g
    simp
    omega
  · simp at h

theorem sizeOf_fields_le {p : Plan} {f : Field} (h : f ∈ p.fields) : sizeOf f ≤ sizeOf p := by
  cases p <;> simp [Plan.fields] at h <;> rcases h with h | h | h | h <;> subst_vars <;> simp <;>
    omega

/-- What holds of a field as soon as it holds of the fields of the plans in it holds of all. -/
theorem induction {P : Field → Prop}
    (step : ∀ f, (∀ p ∈ f.parts, ∀ e ∈ p.fields, P e) → P f) (f : Field) : P f :=
  -- A field is no larger than the plan it belongs to, and a plan smaller than a field it stands in.
  step f fun _ hp e he =>
    have := Nat.lt_of_le_of_lt (sizeOf_fields_le he) (sizeOf_parts_lt hp)
    induction step e
termination_by sizeOf f

end Field

/-! ## Members -/

/-- The rows whose fields are written. -/
def said (rows : List (Slot × Field)) : List (Slot × Field) :=
  rows.filter (!·.2.isUnsaid)

/-- The members that these fields are written as. -/
def members (rows : List (Slot × Field)) : List (String × Json) :=
  (said rows).map fun r => (r.1.name, r.2.json)

/-- The fields that are found in these members. -/
def found (rows : List (Slot × Field)) : List (String × Field) :=
  (said rows).map fun r => (r.1.name, r.2)

/-- A field is decoded from what it is written as. -/
def Decodes (f : Field) : Prop :=
  decode f.kind f.json = some f

/-- The rows of a schema: each field is of the kind of its slot, and one that is left out is the
default there. -/
structure Schema.Rows (s : Schema) (rows : List (Slot × Field)) : Prop where
  slots : rows.map (·.1) = s
  kinds : ∀ r ∈ rows, r.2.kind = r.1.kind
  defaults : ∀ r ∈ rows, r.2.isUnsaid = true → r.1.default? = some r.2
  names : (s.map (·.name)).Nodup

theorem mapM_map_eq_some {α β γ : Type} {f : α → β} {g : β → Option γ} {h : α → γ} :
    ∀ {l : List α}, (∀ a ∈ l, g (f a) = some (h a)) → (l.map f).mapM g = some (l.map h)
  | [], _ => rfl
  | a :: l, hl => by
    have ih := mapM_map_eq_some fun b hb => hl b (List.mem_cons_of_mem _ hb)
    rw [List.map_cons, List.mapM_cons, hl a List.mem_cons_self, ih]
    rfl

theorem mem_said {rows : List (Slot × Field)} {r : Slot × Field} (h : r ∈ said rows) : r ∈ rows :=
  (List.mem_filter.1 h).1

namespace Schema

variable {s : Schema} {rows : List (Slot × Field)}

theorem kind?_of_mem (hs : (s.map (·.name)).Nodup) {slot : Slot} (h : slot ∈ s) :
    s.kind? slot.name = some slot.kind := by
  have hf : s.find? (·.name == slot.name) = some slot := by
    obtain ⟨l, l', rfl⟩ := List.append_of_mem h
    rw [List.find?_eq_some_iff_append]
    refine ⟨by simp, l, l', rfl, fun a ha => ?_⟩
    simp only [List.map_append, List.map_cons, List.nodup_append, List.mem_map] at hs
    simpa using hs.2.2 _ ⟨a, ha, rfl⟩ _ List.mem_cons_self
  rw [kind?, hf]
  rfl

theorem Rows.kind? (h : s.Rows rows) {r : Slot × Field} (hr : r ∈ rows) :
    s.kind? r.1.name = some r.2.kind := by
  have hm : r.1 ∈ s := h.slots ▸ List.mem_map_of_mem hr
  rw [kind?_of_mem h.names hm, h.kinds r hr]

theorem Rows.nodup (h : s.Rows rows) : (rows.map (·.1.name)).Nodup := by
  have := h.names
  rwa [← h.slots, List.map_map] at this

theorem filter_name_of_mem {fs : List (String × Field)} (hn : (fs.map (·.1)).Nodup)
    {name : String} {f : Field} (h : (name, f) ∈ fs) :
    fs.filter (·.1 == name) = [(name, f)] := by
  obtain ⟨l, l', rfl⟩ := List.append_of_mem h
  simp only [List.map_append, List.map_cons, List.nodup_append, List.nodup_cons, List.mem_map]
    at hn
  obtain ⟨-, ⟨hl', -⟩, hl⟩ := hn
  have h1 : l.filter (·.1 == name) = [] := List.filter_eq_nil_iff.2 fun g hg => by
    simpa using hl _ ⟨g, hg, rfl⟩ _ List.mem_cons_self
  have h2 : l'.filter (·.1 == name) = [] := List.filter_eq_nil_iff.2 fun g hg => by
    simpa using fun he => hl' ⟨g, hg, he⟩
  simp [List.filter_append, h1, h2]

/-- The fields of some of the rows, in any order, complete the schema if the other rows hold their
defaults. -/
theorem Rows.complete_kept (h : s.Rows rows) {kept : List (Slot × Field)} (hk : kept.Subperm rows)
    (hd : ∀ r ∈ rows, r ∈ kept ∨ r.1.default? = some r.2) :
    s.complete (kept.map fun r => (r.1.name, r.2)) = some (rows.map (·.2)) := by
  have hn : ((kept.map fun r => (r.1.name, r.2)).map (·.1)).Nodup := by
    obtain ⟨l, hl, hs⟩ := hk
    rw [List.map_map]
    exact (hl.map _).nodup_iff.1 (h.nodup.sublist (hs.map _))
  rw [complete]
  nth_rewrite 1 [← h.slots]
  refine mapM_map_eq_some fun r hr => ?_
  by_cases hm : r ∈ kept
  · rw [filter_name_of_mem hn (List.mem_map_of_mem hm)]
  · have : (kept.map fun r => (r.1.name, r.2)).filter (·.1 == r.1.name) = [] := by
      rw [List.filter_eq_nil_iff]
      -- Another row of this name would be this very row.
      intro f hf he
      obtain ⟨q, hq, rfl⟩ := List.mem_map.1 hf
      exact hm (List.inj_on_of_nodup_map h.nodup (hk.subset hq) hr (beq_iff_eq.1 he) ▸ hq)
    rw [this]
    exact (hd r hr).resolve_left hm

/-- The fields that are found complete the schema. -/
theorem Rows.complete_found (h : s.Rows rows) :
    s.complete (found rows) = some (rows.map (·.2)) := by
  refine h.complete_kept List.filter_sublist.subperm fun r hr => ?_
  cases hu : r.2.isUnsaid with
  | true => exact .inr (h.defaults r hr hu)
  | false => exact .inl (List.mem_filter.2 ⟨hr, by simp [hu]⟩)

end Schema

/-! ## Plans -/

open Plan (Item Ignore)

theorem toJsons_eq_map : ∀ ps : List Plan, Plan.toJsons ps = ps.map Plan.toJson
  | [] => rfl
  | p :: ps => congrArg (p.toJson :: ·) (toJsons_eq_map ps)

/-- The rows of a plan. -/
def planRows (p : Plan) : List (Slot × Field) :=
  p.tag.schema.zip p.fields

/-- The rows of an item. -/
def itemRows (i : Item) : List (Slot × Field) :=
  Item.schema.zip [.plan i.plan, .flag i.optional]

/-- The rows of what is ignored. -/
def ignoreRows (g : Ignore) : List (Slot × Field) :=
  Ignore.schema.zip [.plan g.plan, .count g.maxSkip]

theorem nodup_names (t : Tag) : (t.schema.map (·.name)).Nodup := by
  cases t <;> decide

theorem map_snd_planRows (p : Plan) : (planRows p).map (·.2) = p.fields := by
  cases p <;> rfl

theorem rows_planRows (p : Plan) : p.tag.schema.Rows (planRows p) where
  slots := by cases p <;> rfl
  kinds := by
    cases p <;> simp [planRows, Plan.tag, Tag.schema, Plan.fields, Field.kind, Plan.ignoreSlot]
  defaults := by
    simp only [Field.isUnsaid_iff]
    cases p <;> simp [planRows, Plan.tag, Tag.schema, Plan.fields, Plan.ignoreSlot, eq_comm]
  names := nodup_names p.tag

theorem rows_itemRows (i : Item) : Item.schema.Rows (itemRows i) where
  slots := rfl
  kinds := by simp [itemRows, Item.schema, Field.kind]
  defaults := by simp [itemRows, Item.schema, Field.isUnsaid]
  names := by decide

theorem rows_ignoreRows (g : Ignore) : Ignore.schema.Rows (ignoreRows g) where
  slots := rfl
  kinds := by simp [ignoreRows, Ignore.schema, Field.kind]
  defaults := by simp [ignoreRows, Ignore.schema, Field.isUnsaid]
  names := by decide

/-- A plan is written as its tag and the members of its fields. -/
theorem toJson_eq_tagged (p : Plan) : p.toJson = Plan.tagged p.tag (members (planRows p)) := by
  cases p with
  | sequence is g | recurrence p a b g => rcases g with _ | ⟨q, n⟩ <;> rfl
  | _ => rfl

theorem ignore_toJson_eq (g : Ignore) : g.toJson = .object (members (ignoreRows g)) :=
  rfl

theorem itemsToJson_cons (i : Item) (is : List Item) :
    Plan.itemsToJson (i :: is) = .object (members (itemRows i)) :: Plan.itemsToJson is := by
  obtain ⟨p, b⟩ := i
  rfl

theorem ne_key_of_mem_schema {t : Tag} {slot : Slot} (h : slot ∈ t.schema) :
    slot.name ≠ Tag.key := by
  have : ∀ n ∈ t.schema.map (·.name), n ≠ Tag.key := by cases t <;> decide
  exact this _ (List.mem_map_of_mem h)

theorem decodeMembers_key (t : Tag) (e : Json) (ms : List (String × Json)) :
    decodeMembers t.schema ((Tag.key, e) :: ms) = decodeMembers t.schema ms := by
  have : t.schema.kind? Tag.key = none := by cases t <;> rfl
  rw [decodeMembers, this]

theorem build?_item (i : Item) : Item.build? ((itemRows i).map (·.2)) = some i := by
  cases i
  rfl

theorem build?_ignore (g : Ignore) : Ignore.build? ((ignoreRows g).map (·.2)) = some g := by
  cases g
  rfl

end CorpusQuery.Record
