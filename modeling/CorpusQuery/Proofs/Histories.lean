import CorpusQuery.Variables
import Mathlib.Data.List.Basic
import Mathlib.Data.List.Induction

/-!
# A variable is used once a query

What variables answer is told by what has been done to them since they were new. A history is a list
of operations, the oldest first. After it a name stands for the values of its latest insertion
(`get?_after`), and it counts as used if it has been expanded since the latest reset
(`isUsed_after`). So an expansion succeeds if the name was ever inserted and is not spent, and one
that fails is without effect (`expand_after`).
-/

namespace CorpusQuery.Variables

/-! ## Histories -/

/-- Something that is done to variables. -/
inductive Operation where
  | insert (name : String) (values : List String)
  | expand (field layer name : String)
  | reset

/-- Puts a name among the used ones, and tells whether it was not there yet. -/
def mark (v : Variables) (name : String) : Bool × Variables :=
  (!v.isUsed name, { v with used := v.used.insert name })

/-- Expansion in place: a name that is defined is marked, and only then is it found whether it may
be used. -/
def expanding (v : Variables) (field layer name : String) : Except Error Plan × Variables :=
  match v.get? name with
  | none => (.error (.undefinedVariable name), v)
  | some values =>
    let (isNew, w) := v.mark name
    (if isNew then .ok (.expansion field layer name values) else .error (.variableReused name), w)

/-- The variables after an operation. -/
def perform (v : Variables) : Operation → Variables
  | .insert name values => v.insert name values
  | .expand field layer name => (v.expanding field layer name).2
  | .reset => v.reset

/-- New variables after all these operations. -/
def after (h : List Operation) : Variables :=
  h.foldl perform {}

/-- Something took place in the history, and nothing that undoes it from then on. What takes place
may depend on the history before it. -/
def Since (event : List Operation → Operation → Prop) (undoes : Operation → Prop)
    (h : List Operation) : Prop :=
  ∃ before op since, h = before ++ op :: since ∧ event before op ∧ ∀ o ∈ since, ¬ undoes o

/-- The name has been given values at some time. -/
def Inserted (h : List Operation) (name : String) : Prop :=
  ∃ values, .insert name values ∈ h

/-- These are the values that were inserted last under the name. -/
def Latest (h : List Operation) (name : String) (values : List String) : Prop :=
  Since (fun _ op => op = .insert name values) (fun op => ∃ others, op = .insert name others) h

/-- An expansion of the name has succeeded since the last reset. -/
def Spent (h : List Operation) (name : String) : Prop :=
  Since (fun before op => ∃ field layer p w, op = .expand field layer name ∧
    (after before).expand field layer name = .ok (p, w)) (· = .reset) h

variable {h : List Operation} {op : Operation} {v : Variables} {name : String}

theorem after_concat (h : List Operation) (op : Operation) :
    after (h ++ [op]) = (after h).perform op := by
  simp [after]

theorem since_nil {event : List Operation → Operation → Prop} {undoes : Operation → Prop} :
    ¬ Since event undoes [] := by
  rintro ⟨before, o, since, heq, -⟩
  simp at heq

theorem since_concat {event : List Operation → Operation → Prop} {undoes : Operation → Prop} :
    Since event undoes (h ++ [op]) ↔ event h op ∨ ¬ undoes op ∧ Since event undoes h := by
  constructor
  · rintro ⟨before, o, since, heq, he, hs⟩
    rcases since.eq_nil_or_concat' with rfl | ⟨since, o', rfl⟩
    · obtain ⟨rfl, ho⟩ := List.append_inj' heq rfl
      cases ho
      exact .inl he
    · rw [← List.cons_append, ← List.append_assoc] at heq
      obtain ⟨rfl, ho⟩ := List.append_inj' heq rfl
      cases ho
      exact .inr ⟨hs op (by simp), before, o, since, rfl, he, fun x hx => hs x (by simp [hx])⟩
  · rintro (he | ⟨hu, before, o, since, rfl, he, hs⟩)
    · exact ⟨h, op, [], rfl, he, by simp⟩
    · refine ⟨before, o, since ++ [op], by simp, he, fun x hx => ?_⟩
      rcases List.mem_append.1 hx with hx | hx
      · exact hs x hx
      · rwa [List.mem_singleton.1 hx]

theorem latest_concat {values : List String} : Latest (h ++ [op]) name values ↔
    op = .insert name values ∨ (¬ ∃ others, op = .insert name others) ∧ Latest h name values := by
  rw [Latest, since_concat, Latest]

theorem spent_concat : Spent (h ++ [op]) name ↔
    (∃ field layer p w, op = .expand field layer name ∧
      (after h).expand field layer name = .ok (p, w)) ∨ op ≠ .reset ∧ Spent h name := by
  rw [Spent, since_concat, Spent]

/-! ## One expansion -/

section Expansion

variable (field layer : String) {values : List String}

theorem expand_of_undefined (hd : v.get? name = none) :
    v.expand field layer name = .error (.undefinedVariable name) ∧
      v.expanding field layer name = (.error (.undefinedVariable name), v) := by
  simp [expand, expanding, hd]

theorem expand_of_used (hd : v.get? name = some values) (hu : v.isUsed name = true) :
    v.expand field layer name = .error (.variableReused name) ∧
      v.expanding field layer name = (.error (.variableReused name), v) := by
  have hm : v.used.insert name = v.used := List.insert_of_mem (List.contains_iff_mem.1 hu)
  simp [expand, expanding, mark, hd, hu, hm]

theorem expand_of_unused (hd : v.get? name = some values) (hu : v.isUsed name = false) :
    v.expand field layer name
        = .ok (.expansion field layer name values, { v with used := name :: v.used }) ∧
      v.expanding field layer name
        = (.ok (.expansion field layer name values), { v with used := name :: v.used }) := by
  have hm : v.used.insert name = name :: v.used :=
    List.insert_of_not_mem (by simpa [isUsed] using hu)
  simp [expand, expanding, mark, hd, hu, hm]

/-- An expansion fails and changes nothing, or succeeds and marks the name. -/
theorem expand_cases (v : Variables) (name : String) :
    (∃ e, v.expand field layer name = .error e ∧ v.perform (.expand field layer name) = v ∧
      (e = .undefinedVariable name ∧ v.get? name = none ∨
        e = .variableReused name ∧ (∃ values, v.get? name = some values) ∧
          v.isUsed name = true)) ∨
      ∃ values w, v.expand field layer name = .ok (.expansion field layer name values, w) ∧
        v.perform (.expand field layer name) = w ∧ w = { v with used := name :: v.used } ∧
        v.get? name = some values ∧ v.isUsed name = false := by
  cases hd : v.get? name with
  | none =>
    obtain ⟨he, hi⟩ := expand_of_undefined field layer hd
    exact .inl ⟨_, he, congrArg Prod.snd hi, .inl ⟨rfl, rfl⟩⟩
  | some values =>
    cases hu : v.isUsed name with
    | true =>
      obtain ⟨he, hi⟩ := expand_of_used field layer hd hu
      exact .inl ⟨_, he, congrArg Prod.snd hi, .inr ⟨rfl, ⟨values, rfl⟩, rfl⟩⟩
    | false =>
      obtain ⟨he, hi⟩ := expand_of_unused field layer hd hu
      exact .inr ⟨values, _, he, congrArg Prod.snd hi, rfl, rfl, rfl⟩

end Expansion

/-! ## One operation -/

theorem lookup_filter_ne {n : String} (hn : name ≠ n) :
    ∀ ds : List (String × List String), (ds.filter (·.1 != n)).lookup name = ds.lookup name
  | [] => rfl
  | d :: ds => by
    have ih := lookup_filter_ne hn ds
    by_cases hd : d.1 = n
    · have hb : (name == d.1) = false := by simpa [hd] using hn
      rw [List.filter_cons_of_neg (by simp [hd]), ih, List.lookup_cons, hb]
    · rw [List.filter_cons_of_pos (by simp [hd]), List.lookup_cons, List.lookup_cons, ih]

theorem get?_insert (v : Variables) (n : String) (values : List String) (name : String) :
    (v.insert n values).get? name = if name = n then some values else v.get? name := by
  unfold get? insert
  rw [List.lookup_cons]
  split_ifs with hn
  · simp [hn]
  · have hb : (name == n) = false := by simpa using hn
    rw [hb]
    exact lookup_filter_ne hn v.definitions

/-- What a name stands for after an operation. -/
theorem get?_perform {values : List String} : (v.perform op).get? name = some values ↔
    op = .insert name values ∨
      (¬ ∃ others, op = .insert name others) ∧ v.get? name = some values := by
  cases op with
  | insert n vs =>
    rw [perform, get?_insert]
    split_ifs with hn <;> simp [hn, eq_comm]
  | expand field layer n =>
    have hd : (v.perform (.expand field layer n)).get? name = v.get? name := by
      obtain ⟨-, -, hp, -⟩ | ⟨-, w, -, hp, rfl, -⟩ := expand_cases field layer v n <;> rw [hp]
      rfl
    simp [hd]
  | reset => simp [perform, reset, get?]

/-- Whether a name counts as used after an operation. -/
theorem isUsed_perform : (v.perform op).isUsed name = true ↔
    (∃ field layer p w, op = .expand field layer name ∧ v.expand field layer name = .ok (p, w)) ∨
      op ≠ .reset ∧ v.isUsed name = true := by
  cases op with
  | insert n vs => simp [perform, insert, isUsed]
  | expand field layer n =>
    obtain ⟨e, he, hp, -⟩ | ⟨values, w, he, hp, rfl, -⟩ := expand_cases field layer v n
    · rw [hp]
      refine ⟨fun hu => .inr ⟨by simp, hu⟩, ?_⟩
      rintro (⟨f, l, p, w, ho, hs⟩ | ⟨-, hu⟩)
      · cases ho
        rw [he] at hs
        cases hs
      · exact hu
    · have hu : isUsed { v with used := n :: v.used } name = true ↔
          name = n ∨ v.isUsed name = true := by
        simp [isUsed]
      rw [hp, hu]
      refine or_congr ⟨?_, ?_⟩ (by simp)
      · rintro rfl
        exact ⟨field, layer, _, _, rfl, he⟩
      · rintro ⟨f, l, p, w, ho, -⟩
        cases ho
        rfl
  | reset => simp [perform, reset, isUsed]

/-! ## All operations -/

theorem get?_after : ∀ {h : List Operation} {values : List String},
    (after h).get? name = some values ↔ Latest h name values := by
  intro h
  induction h using List.reverseRecOn with
  | nil =>
    intro values
    exact ⟨nofun, fun hl => absurd hl since_nil⟩
  | append_singleton h op ih =>
    intro values
    rw [after_concat, get?_perform, ih, latest_concat]

theorem isUsed_after : (after h).isUsed name = true ↔ Spent h name := by
  induction h using List.reverseRecOn with
  | nil => exact ⟨nofun, fun hs => absurd hs since_nil⟩
  | append_singleton h op ih => rw [after_concat, isUsed_perform, ih, spent_concat]

theorem inserted_iff : Inserted h name ↔ ∃ values, Latest h name values := by
  constructor
  · induction h using List.reverseRecOn with
    | nil => simp [Inserted]
    | append_singleton h op ih =>
      rintro ⟨values, hm⟩
      by_cases ho : ∃ others, op = .insert name others
      · obtain ⟨others, rfl⟩ := ho
        exact ⟨others, latest_concat.2 (.inl rfl)⟩
      · have hne : Operation.insert name values ≠ op := fun he => ho ⟨values, he.symm⟩
        have hh : .insert name values ∈ h := by simpa [hne] using hm
        obtain ⟨latest, hl⟩ := ih ⟨values, hh⟩
        exact ⟨latest, latest_concat.2 (.inr ⟨ho, hl⟩)⟩
  · rintro ⟨values, before, op, since, rfl, rfl, -⟩
    exact ⟨values, by simp⟩

theorem get?_after_eq_none : (after h).get? name = none ↔ ¬ Inserted h name := by
  rw [inserted_iff, Option.eq_none_iff_forall_not_mem, not_exists]
  exact forall_congr' fun values => not_congr get?_after

/-- After any history, a name expands to its latest values if it was inserted and is not spent, and
the variables that are handed back are those of the history with this expansion. It fails otherwise,
telling whether it was inserted, and such a failure changes nothing, then or later. -/
theorem expand_after (h : List Operation) (field layer name : String) :
    ((∃ p w, (after h).expand field layer name = .ok (p, w)) ↔ Inserted h name ∧ ¬ Spent h name) ∧
      (∀ p w, (after h).expand field layer name = .ok (p, w) →
        (∃ values, Latest h name values ∧ p = .expansion field layer name values) ∧
          (after h).perform (.expand field layer name) = w) ∧
      ∀ e, (after h).expand field layer name = .error e →
        (e = .undefinedVariable name ∧ ¬ Inserted h name ∨
          e = .variableReused name ∧ Inserted h name) ∧
        (after h).perform (.expand field layer name) = after h ∧
        ∀ later, after (h ++ .expand field layer name :: later) = after (h ++ later) := by
  obtain ⟨e, he, hp, hc⟩ | ⟨values, w, he, hp, -, hd, hu⟩ :=
    expand_cases field layer (after h) name
  · have hk : (e = .undefinedVariable name ∧ ¬ Inserted h name) ∨
        e = .variableReused name ∧ Inserted h name ∧ Spent h name := by
      rw [← isUsed_after, inserted_iff]
      simpa only [get?_after_eq_none, inserted_iff, get?_after] using hc
    refine ⟨⟨?_, ?_⟩, ?_, ?_⟩
    · rintro ⟨p, w, hw⟩
      rw [he] at hw
      cases hw
    · rintro ⟨hi, hs⟩
      rcases hk with ⟨-, hn⟩ | ⟨-, -, hn⟩
      · exact absurd hi hn
      · exact absurd hn hs
    · intro p w hw
      rw [he] at hw
      cases hw
    · intro e' hw
      rw [he] at hw
      cases hw
      refine ⟨hk.imp_right fun hr => ⟨hr.1, hr.2.1⟩, hp, fun later => ?_⟩
      rw [after, after, List.foldl_append, List.foldl_append, List.foldl_cons]
      exact congrArg (later.foldl perform) hp
  · have hi : Inserted h name := inserted_iff.2 ⟨values, get?_after.1 hd⟩
    have hs : ¬ Spent h name := by
      rw [← isUsed_after, hu]
      exact Bool.false_ne_true
    refine ⟨⟨fun _ => ⟨hi, hs⟩, fun _ => ⟨_, _, he⟩⟩, ?_, ?_⟩
    · intro p w' hw
      rw [he] at hw
      cases hw
      exact ⟨⟨values, get?_after.1 hd, rfl⟩, hp⟩
    · intro e hw
      rw [he] at hw
      cases hw

/-- A query that uses a variable, fails to use it again, defines it anew, and ends. -/
def oneQuery : List Operation :=
  [.insert "verb" ["run"], .expand "text" "lemma" "verb", .expand "text" "word" "verb",
    .insert "verb" ["go"], .reset]

theorem expand_after_oneQuery :
    (Inserted oneQuery "verb" ∧ ¬ Spent oneQuery "verb" ∧ ∃ w,
      (after oneQuery).expand "text" "word" "verb"
        = .ok (.expansion "text" "word" "verb" ["go"], w) ∧
      (after oneQuery).perform (.expand "text" "word" "verb") = w) ∧
      ∀ later, after (oneQuery.take 2 ++ .expand "text" "word" "verb" :: later)
        = after (oneQuery.take 2 ++ later) := by
  obtain ⟨hs, hw, -⟩ := expand_after oneQuery "text" "word" "verb"
  obtain ⟨-, -, he⟩ := expand_after (oneQuery.take 2) "text" "word" "verb"
  obtain ⟨hi, hn⟩ := hs.1 ⟨_, _, rfl⟩
  exact ⟨⟨hi, hn, _, rfl, (hw _ _ rfl).2⟩, (he _ rfl).2.2⟩

end CorpusQuery.Variables
