import CorpusQuery.Plan.Encoding

/-!
# Records

Plans, items, ignore clauses and settings are records: a schema lists the fields of each in order,
with their kinds and, where a field may be missing, its default. A record is built from one value
for each field (`Schema.complete`, `Tag.build?`); taking a plan apart and building it again gives
the same plan (`build?_fields`).
-/

namespace CorpusQuery

namespace Record

/-- What kind of value belongs in a field. -/
inductive Kind where
  | flag
  | count
  | integer
  | text
  /-- A text or nothing. -/
  | optionalText
  | texts
  | comparison
  | plan
  | plans
  | items
  /-- What is ignored, or nothing. -/
  | ignore
  deriving DecidableEq

/-- The value of a field. -/
inductive Field where
  | flag (value : Bool)
  | count (value : UInt64)
  | integer (value : Int64)
  | text (value : String)
  | optionalText (value : Option String)
  | texts (values : List String)
  | comparison (value : Comparison)
  | plan (value : Plan)
  | plans (values : List Plan)
  | items (values : List Plan.Item)
  | ignore (value : Option Plan.Ignore)

/-- A field as a schema lists it; one with a default may be missing. -/
structure Slot where
  name : String
  kind : Kind
  default? : Option Field := none

abbrev Schema := List Slot

namespace Schema

/-- The kind of the field of this name. -/
def kind? (s : Schema) (name : String) : Option Kind :=
  (s.find? (·.name == name)).map (·.kind)

/-- One value for each field in order: the one that was found under its name, or its default. A
field that was found twice is refused, as is a missing one without a default. -/
def complete (s : Schema) (found : List (String × Field)) : Option (List Field) :=
  s.mapM fun slot =>
    match found.filter (·.1 == slot.name) with
    | [] => slot.default?
    | [(_, f)] => some f
    | _ => none

end Schema

end Record

namespace Plan

open Record

def Item.schema : Schema :=
  [⟨"query", .plan, none⟩, ⟨"optional", .flag, some (.flag false)⟩]

def Item.build? : List Field → Option Item
  | [.plan p, .flag b] => some ⟨p, b⟩
  | _ => none

def Ignore.schema : Schema :=
  [⟨"query", .plan, none⟩, ⟨"max_skip_length", .count, none⟩]

def Ignore.build? : List Field → Option Ignore
  | [.plan p, .count n] => some ⟨p, n⟩
  | _ => none

/-- The field for what a plan ignores, which may be missing. -/
def ignoreSlot : Slot :=
  ⟨"ignore", .ignore, some (.ignore none)⟩

namespace Tag

def schema : Tag → Schema
  | term | wildcard | regexp =>
    [⟨"field", .text, none⟩, ⟨"prefix", .text, none⟩, ⟨"value", .text, none⟩]
  | annotated => [⟨"field", .text, none⟩, ⟨"prefix", .text, none⟩]
  | expansion =>
    [⟨"field", .text, none⟩, ⟨"prefix", .text, none⟩, ⟨"name", .text, none⟩,
      ⟨"values", .texts, none⟩]
  | compare =>
    [⟨"field", .text, none⟩, ⟨"prefix", .text, none⟩, ⟨"operator", .comparison, none⟩,
      ⟨"value", .integer, none⟩]
  | position => [⟨"field", .text, none⟩, ⟨"start", .count, none⟩, ⟨"end", .count, none⟩]
  | everything => [⟨"field", .text, none⟩]
  | allOf | anyOf => [⟨"clauses", .plans, none⟩]
  | without => [⟨"base", .plan, none⟩, ⟨"exclude", .plan, none⟩]
  | sequence => [⟨"items", .items, none⟩, ignoreSlot]
  | recurrence =>
    [⟨"query", .plan, none⟩, ⟨"min", .count, none⟩, ⟨"max", .count, none⟩, ignoreSlot]
  | startOf | endOf => [⟨"query", .plan, none⟩]

/-- The plan of this kind with these fields. -/
def build? : Tag → List Field → Option Plan
  | term, [.text f, .text l, .text v] => some (.term f l v)
  | annotated, [.text f, .text l] => some (.annotated f l)
  | wildcard, [.text f, .text l, .text v] => some (.wildcard f l v)
  | regexp, [.text f, .text l, .text v] => some (.regexp f l v)
  | expansion, [.text f, .text l, .text n, .texts vs] => some (.expansion f l n vs)
  | compare, [.text f, .text l, .comparison r, .integer b] => some (.compare f l r b)
  | position, [.text f, .count a, .count b] => some (.position f a b)
  | everything, [.text f] => some (.everything f)
  | allOf, [.plans ps] => some (.allOf ps)
  | anyOf, [.plans ps] => some (.anyOf ps)
  | without, [.plan p, .plan q] => some (.without p q)
  | sequence, [.items is, .ignore g] => some (.sequence is g)
  | recurrence, [.plan p, .count a, .count b, .ignore g] => some (.recurrence p a b g)
  | startOf, [.plan p] => some (.startOf p)
  | endOf, [.plan p] => some (.endOf p)
  | _, _ => none

end Tag

/-- The fields of a plan, in the order of its schema. -/
def fields : Plan → List Field
  | .term f l v | .wildcard f l v | .regexp f l v => [.text f, .text l, .text v]
  | .annotated f l => [.text f, .text l]
  | .expansion f l n vs => [.text f, .text l, .text n, .texts vs]
  | .compare f l r b => [.text f, .text l, .comparison r, .integer b]
  | .position f a b => [.text f, .count a, .count b]
  | .everything f => [.text f]
  | .allOf ps | .anyOf ps => [.plans ps]
  | .without p q => [.plan p, .plan q]
  | .sequence is g => [.items is, .ignore g]
  | .recurrence p a b g => [.plan p, .count a, .count b, .ignore g]
  | .startOf p | .endOf p => [.plan p]

theorem build?_fields (p : Plan) : p.tag.build? p.fields = some p := by cases p <;> rfl

end Plan

end CorpusQuery
