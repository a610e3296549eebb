import CorpusQuery.Files.Store
import CorpusQuery.Proofs.RoundTrip

/-!
# What is saved is loaded

A file that was written is there to be read (`Store.read_of_write`), under the same path. Whether a
name leads to that path again is a question of its own: reading takes the scheme off a name before
anything else, writing within a working directory leaves it on. So the two meet unless there is both
a working directory and a scheme (`Location.forReading_eq_forWriting_iff`). A lone hyphen, by which
callers mean the standard streams, is no name of a file and does not get here.
-/

namespace CorpusQuery

namespace Location

theorem stripScheme_of_not_prefix {name : String} (h : ¬ scheme <+: name.toList) :
    stripScheme name = name := by
  rw [stripScheme, if_neg (by rwa [List.isPrefixOf_iff_prefix])]

theorem length_stripScheme_lt {name : String} (h : scheme <+: name.toList) :
    (stripScheme name).toList.length < name.toList.length := by
  have hl := h.length_le
  have hs : scheme.length = 7 := rfl
  rw [stripScheme, if_pos (List.isPrefixOf_iff_prefix.2 h), String.toList_ofList,
    List.length_drop]
  omega

theorem not_isAbsolute_of_prefix {name : String} (h : scheme <+: name.toList) :
    isAbsolute name = false := by
  obtain ⟨cs, hcs⟩ := h
  rw [isAbsolute, ← hcs]
  rfl

/-- What a directory adds to a relative path does not depend on the path. -/
theorem length_join (dir : String) : ∃ n, ∀ path, isAbsolute path = false →
    (join dir path).toList.length = n + path.toList.length := by
  by_cases hd : (dir.isEmpty || dir.toList.getLast? == some '/') = true
  · refine ⟨dir.toList.length, fun path hp => ?_⟩
    rw [join, if_neg (by simp [hp]), if_pos hd]
    simp
  · refine ⟨dir.toList.length + 1, fun path hp => ?_⟩
    rw [join, if_neg (by simp [hp]), if_neg hd]
    simp
    omega

variable {isFile : String → Bool} {workdir : Option String} {name : String}

/-- What is read is no longer than the name without its scheme in the directory. -/
theorem forReading_eq_or (isFile : String → Bool) (dir name : String) :
    forReading isFile (some dir) name = stripScheme name ∨
      isAbsolute (stripScheme name) = false ∧
        forReading isFile (some dir) name = join dir (stripScheme name) := by
  rw [forReading]
  simp only [Bool.and_eq_true, Bool.not_eq_true']
  split_ifs with h
  · exact .inr ⟨h.1, rfl⟩
  · exact .inl rfl

/-- A name leads to the path that was written under it, unless it has a scheme that counts as a part
of the name within the working directory. -/
theorem forReading_eq_forWriting_iff (h : isFile (forWriting workdir name) = true) :
    forReading isFile workdir name = forWriting workdir name
      ↔ workdir = none ∨ ¬ scheme <+: name.toList := by
  cases workdir with
  | none => simp [forReading, forWriting]
  | some dir =>
    by_cases hs : scheme <+: name.toList
    · simp only [reduceCtorEq, hs, not_true_eq_false, or_self, iff_false]
      obtain ⟨n, hn⟩ := length_join dir
      have hl := length_stripScheme_lt hs
      have ha := not_isAbsolute_of_prefix hs
      have hw : forWriting (some dir) name = join dir name := by
        simp [forWriting, ha]
      intro he
      have hlen := congrArg (·.toList.length) he
      simp only [hw, hn name ha] at hlen
      rcases forReading_eq_or isFile dir name with hr | ⟨hr', hr⟩
      · rw [hr] at hlen
        omega
      · rw [hr, hn _ hr'] at hlen
        omega
    · have hn := stripScheme_of_not_prefix hs
      simp only [reduceCtorEq, hs, not_false_eq_true, or_true, iff_true]
      simp only [forReading, forWriting, hn] at h ⊢
      split_ifs at h ⊢ with ha <;> simp_all

end Location

/-! ## Files -/

namespace Store

variable {s t : Store} {path text : String}

/-- Which directories there are is all that a walk through directories asks. -/
theorem enter_of_directories (hd : t.directories = s.directories) {here there : List String}
    {name : String} (h : s.enter here name = .ok there) : t.enter here name = .ok there := by
  have hi : t.isDirectory = s.isDirectory := by
    funext place
    rw [isDirectory, isDirectory, hd]
  unfold enter at h ⊢
  rw [hi]
  split_ifs at h ⊢ <;> exact h

theorem foldlM_enter_of_directories (hd : t.directories = s.directories) :
    ∀ {names here there : List String}, names.foldlM s.enter here = .ok there →
      names.foldlM t.enter here = .ok there
  | [], _, _, h => h
  | name :: names, here, there, h => by
    rw [List.foldlM_cons] at h ⊢
    cases he : s.enter here name with
    | error e =>
      rw [he] at h
      cases h
    | ok next =>
      rw [he] at h
      rw [enter_of_directories hd he]
      exact foldlM_enter_of_directories hd h

theorem follow_of_directories (hh : t.home = s.home) (hd : t.directories = s.directories)
    {here : List String} {name : String} {slash : Bool}
    (h : s.follow path = .ok (.entry here name slash)) :
    t.follow path = .ok (.entry here name slash) := by
  unfold follow at h ⊢
  rw [hh]
  by_cases hn : path.contains '\x00' = true
  · rw [if_pos hn] at h
    cases h
  by_cases he : path.isEmpty = true
  · rw [if_neg hn, if_pos he] at h
    cases h
  by_cases hl : 4096 ≤ path.utf8ByteSize
  · rw [if_neg hn, if_neg he, if_pos hl] at h
    cases h
  simp only [if_neg hn, if_neg he, if_neg hl] at h ⊢
  generalize (Segments.between '/' path.toList).map String.ofList = ps at h ⊢
  generalize ps.filter (!·.isEmpty) = names at h ⊢
  cases hf : names.dropLast.foldlM s.enter (if Location.isAbsolute path then [] else s.home) with
  | error e =>
    rw [hf] at h
    cases h
  | ok there =>
    rw [hf] at h
    rw [foldlM_enter_of_directories hd hf]
    cases hlast : names.getLast? with
    | none =>
      rw [hlast] at h
      cases h
    | some last =>
      rw [hlast] at h
      by_cases hdot : last = "." ∨ last = ".."
      · -- a path that ends in dots leads to a directory
        simp only [bind, Except.bind, if_pos hdot] at h
        cases hs : s.enter there last <;> rw [hs] at h <;> cases h
      · simp only [bind, Except.bind, if_neg hdot] at h ⊢
        exact h

/-- A write leaves the directories as they are, and its text at the end of its path. -/
theorem exists_of_write (h : s.write path text = .ok t) : ∃ here name,
    s.follow path = .ok (.entry here name false) ∧ isTooLong name = false ∧
      s.isDirectory (here ++ [name]) = false ∧ t.home = s.home ∧ t.directories = s.directories ∧
      t.files.lookup (here ++ [name]) = some text := by
  unfold write at h
  cases hf : s.follow path with
  | error e =>
    rw [hf] at h
    cases h
  | ok target =>
    rw [hf] at h
    cases target with
    | directory place => cases h
    | entry here name slash =>
      simp only [bind, Except.bind] at h
      by_cases hd : (slash || s.isDirectory (here ++ [name])) = true
      · rw [if_pos hd] at h
        cases h
      by_cases hl : isTooLong name = true
      · rw [if_neg hd, if_pos hl] at h
        cases h
      rw [if_neg hd, if_neg hl] at h
      cases h
      obtain ⟨rfl, hplace⟩ : slash = false ∧ s.isDirectory (here ++ [name]) = false := by
        simpa using hd
      exact ⟨here, name, rfl, by simpa using hl, hplace, rfl, rfl, List.lookup_cons_self⟩

theorem read_of_write (h : s.write path text = .ok t) : t.read path = .ok (some text) := by
  obtain ⟨here, name, hf, hl, hd, hh, hds, ht⟩ := exists_of_write h
  have hd' : t.isDirectory (here ++ [name]) = false := by
    rw [isDirectory, hds]
    exact hd
  unfold read
  rw [follow_of_directories hh hds hf]
  simp [bind, Except.bind, pure, Except.pure, hl, hd', ht]

theorem isFile_of_write (h : s.write path text = .ok t) : t.isFile path = true := by
  rw [isFile, read_of_write h]

theorem write_of_save {c : Settings} {name : String} {d : Document} (h : s.save c name d = .ok t) :
    s.write (Location.forWriting c.workdir name) (d.text c.layout) = .ok t := by
  rw [save] at h
  cases hw : s.write (Location.forWriting c.workdir name) (d.text c.layout) with
  | error e =>
    rw [hw] at h
    cases h
  | ok u =>
    rw [hw] at h
    exact congrArg Except.ok (Except.ok.inj h)

/-- A name under which something was saved leads to its text, when it leads to the same path. -/
theorem load_of_save {c : Settings} {name : String} {d : Document} {settings : Bool}
    (h : s.save c name d = .ok t)
    (hp : Location.forReading t.isFile c.workdir name = Location.forWriting c.workdir name) :
    t.load c.workdir name settings = .ok (d.text c.layout) := by
  rw [load]
  simp only [hp, read_of_write (write_of_save h)]
  rfl

/-- Where a file name leads when it is read back, whichever other files there are. A file that was
saved is the one that is read, unless there is a working directory and the name has a scheme; then
the path that is read is always another one. -/
theorem loadPlan_save (c : Settings) (name : String) :
    (∀ isFile, isFile (Location.forWriting c.workdir name) = true →
      (Location.forReading isFile c.workdir name = Location.forWriting c.workdir name ↔
        c.workdir = none ∨ ¬ Location.scheme <+: name.toList)) ∧
      ∀ s t p, save s c name (.ofPlan p) = .ok t →
        t.isFile (Location.forWriting c.workdir name) = true ∧
          (c.workdir = none ∨ ¬ Location.scheme <+: name.toList →
            t.loadPlan c name = if p.toJson.depth ≤ 127 then .ok p
              else .error (.unreadable (.file name) false (.fault .malformed))) := by
  refine ⟨fun isFile => Location.forReading_eq_forWriting_iff, fun s t p h => ?_⟩
  have hf := isFile_of_write (write_of_save h)
  refine ⟨hf, fun hn => ?_⟩
  rw [loadPlan, load_of_save h ((Location.forReading_eq_forWriting_iff hf).2 hn)]
  exact Plan.parse_render _ _ _

/-- A store with a directory to work in, where a directory is named like a scheme. -/
def workplace : Store where
  home := []
  directories := [["work"], ["work", "file:"]]
  files := []

theorem loadPlan_save_workplace : ∃ t,
    save workplace { workdir := some "work" } "q.json" (.ofPlan (.everything "text")) = .ok t ∧
      t.isFile "work/q.json" = true ∧
      Location.forReading t.isFile (some "work") "q.json" = "work/q.json" ∧
      t.loadPlan { workdir := some "work" } "q.json" = .ok (.everything "text") := by
  obtain ⟨hr, hl⟩ := loadPlan_save { workdir := some "work" } "q.json"
  have hn : ¬ Location.scheme <+: "q.json".toList := by decide
  obtain ⟨t, hs⟩ : ∃ t, save workplace { workdir := some "work" } "q.json"
      (.ofPlan (.everything "text")) = .ok t := by
    rw [save, write, follow, String.contains_char_eq]
    exact ⟨_, rfl⟩
  obtain ⟨hf, ht⟩ := hl _ _ _ hs
  exact ⟨t, hs, hf, (hr _ hf).2 (.inr hn), ht (.inr hn)⟩

/-- The scheme is a part of the path that is written, and not of the one that is read. -/
theorem not_loadPlan_save : ∃ t,
    save workplace { workdir := some "work" } "file://q.json" (.ofPlan (.everything "text"))
        = .ok t ∧
      t.isFile "work/file://q.json" = true ∧
      Location.forReading t.isFile (some "work") "file://q.json" = "q.json" ∧
      t.loadPlan { workdir := some "work" } "file://q.json"
        = .error (.inaccessible .reading "q.json" .missing) := by
  let text := (Document.ofPlan (.everything "text")).text .pretty
  let t : Store := { workplace with files := [(["work", "file:", "q.json"], text)] }
  have hs : save workplace { workdir := some "work" } "file://q.json"
      (.ofPlan (.everything "text")) = .ok t := by
    rw [save, write, follow, String.contains_char_eq]
    rfl
  have hw : t.isFile "work/q.json" = false := by
    rw [isFile, read, follow, String.contains_char_eq]
    rfl
  have hq : t.read "q.json" = .error .missing := by
    rw [read, follow, String.contains_char_eq]
    rfl
  have hr : Location.forReading t.isFile (some "work") "file://q.json" = "q.json" := by
    show (if !false && t.isFile "work/q.json" then _ else _) = _
    rw [hw]
    rfl
  refine ⟨t, hs, isFile_of_write (write_of_save hs), hr, ?_⟩
  rw [loadPlan, load]
  simp only [hr, hq]
  rfl

end Store

end CorpusQuery
