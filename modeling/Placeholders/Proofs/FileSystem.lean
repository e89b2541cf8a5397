import Mathlib.Data.List.Basic
import Placeholders.FileSystem
import Placeholders.Proofs.Assoc

/-!
# Reading what was written

A name is looked up part by part, and everything on the way has to be a directory.  Writing a file
takes no directory away, so every name that led somewhere still leads there.

* `entry_put_self`, `entry_put_of_directory`, `entry_put_of_file` — what is where when a file was
  put at a path.
* `walk_of_directories` — the way along a name depends on the directories only.
* `Rooted`, `rooted_of_locate` — there is something everywhere on the way to where a name leads, so
  that a file put there brings no directory with it.
* `write_eq_ok_iff`, `Writable` — when a file can be written, and what the files are then.
* **`read_write`** — what was written is read; **`entry_write`** — whatever else is in the file
  system is as before.
-/

namespace Placeholders.FileSystem

variable {fs fs' : FileSystem} {name content : String}

/-! ## Putting a file at a path -/

lemma lookup_put (path : FilePath) (content : String) (files : List (FilePath × String))
    (p : FilePath) : (put path content files).lookup p
      = if p = path then some content else files.lookup p := by
  induction files with
  | nil => exact Assoc.lookup_cons_eq_ite p path content []
  | cons file files ih =>
      obtain ⟨q, old⟩ := file
      rw [put]
      by_cases hq : q = path
      · rw [if_pos hq, Assoc.lookup_cons_eq_ite, Assoc.lookup_cons_eq_ite, hq]
        by_cases hp : p = path <;> simp only [hp, if_true, if_false]
      · rw [if_neg hq, Assoc.lookup_cons_eq_ite, Assoc.lookup_cons_eq_ite, ih]
        by_cases hp : p = q
        · simp [hp, hq]
        · simp [hp]

/-- No path gets lost. -/
lemma exists_mem_put (path : FilePath) (content : String) {files : List (FilePath × String)}
    {p : FilePath} {old : String} (h : (p, old) ∈ files) :
    ∃ new, (p, new) ∈ put path content files := by
  induction files with
  | nil => exact absurd h List.not_mem_nil
  | cons file files ih =>
      rw [put]
      split_ifs with hpath
      · rcases List.mem_cons.mp h with rfl | h
        · exact ⟨content, hpath ▸ List.mem_cons_self ..⟩
        · exact ⟨old, List.mem_cons_of_mem _ h⟩
      · rcases List.mem_cons.mp h with rfl | h
        · exact ⟨old, List.mem_cons_self ..⟩
        · obtain ⟨new, hnew⟩ := ih h
          exact ⟨new, List.mem_cons_of_mem _ hnew⟩

/-- Only the file itself is new. -/
lemma eq_or_mem_of_mem_put {path : FilePath} {content : String}
    {files : List (FilePath × String)} {file : FilePath × String}
    (h : file ∈ put path content files) : file = (path, content) ∨ file ∈ files := by
  induction files with
  | nil => exact .inl (List.mem_singleton.mp h)
  | cons first files ih =>
      rw [put] at h
      split_ifs at h with hpath
      · exact (List.mem_cons.mp h).imp id (List.mem_cons_of_mem _)
      · rcases List.mem_cons.mp h with rfl | h
        · exact .inr (List.mem_cons_self ..)
        · exact (ih h).imp id (List.mem_cons_of_mem _)

lemma any_isPrefixOf_put (path : FilePath) (content : String)
    {files : List (FilePath × String)} {p : FilePath}
    (h : files.any fun file => p.isPrefixOf file.1) :
    (put path content files).any fun file => p.isPrefixOf file.1 := by
  obtain ⟨⟨q, old⟩, hmem, hstart⟩ := List.any_eq_true.mp h
  obtain ⟨new, hnew⟩ := exists_mem_put path content hmem
  exact List.any_eq_true.mpr ⟨(q, new), hnew, hstart⟩

lemma entry_put_self (fs : FileSystem) (path : FilePath) (content : String) :
    entry ⟨put path content fs.files⟩ path = .file content := by
  simp only [entry, lookup_put, if_true]

/-- Directories stay, unless a file is put in the place of one. -/
lemma entry_put_of_directory {path p : FilePath} (content : String)
    (hpath : fs.entry path ≠ .directory) (h : fs.entry p = .directory) :
    entry ⟨put path content fs.files⟩ p = .directory := by
  have hne : p ≠ path := by
    rintro rfl
    exact hpath h
  rw [entry] at h
  rw [entry, lookup_put, if_neg hne]
  cases hlookup : fs.files.lookup p with
  | some old => simp [hlookup] at h
  | none =>
      simp only [hlookup] at h ⊢
      split_ifs at h with hdir
      exact if_pos (hdir.imp id (any_isPrefixOf_put path content))

lemma entry_put_of_file {path p : FilePath} {old : String} (content : String) (hne : p ≠ path)
    (h : fs.entry p = .file old) : entry ⟨put path content fs.files⟩ p = .file old := by
  rw [entry] at h
  rw [entry, lookup_put, if_neg hne]
  cases hlookup : fs.files.lookup p with
  | some text => simpa [hlookup] using h
  | none =>
      simp only [hlookup] at h
      split_ifs at h

/-- Nothing is put anywhere but at the path and above it. -/
lemma entry_put_of_nothing {path p : FilePath} (content : String) (hstart : ¬ p <+: path)
    (h : fs.entry p = .nothing) : entry ⟨put path content fs.files⟩ p = .nothing := by
  have hne : p ≠ path := by
    rintro rfl
    exact hstart (List.prefix_refl p)
  rw [entry] at h
  rw [entry, lookup_put, if_neg hne]
  cases hlookup : fs.files.lookup p with
  | some old => simp [hlookup] at h
  | none =>
      simp only [hlookup] at h ⊢
      split_ifs at h with hnone
      refine if_neg fun hdir => hnone (hdir.imp id fun hany => ?_)
      obtain ⟨file, hfile, hp⟩ := List.any_eq_true.mp hany
      rcases eq_or_mem_of_mem_put hfile with rfl | hfile
      · exact absurd (List.isPrefixOf_iff_prefix.mp hp) hstart
      · exact List.any_eq_true.mpr ⟨file, hfile, hp⟩

/-! ## Going along a name -/

/-- There is something everywhere above a path. -/
def Rooted (fs : FileSystem) (path : FilePath) : Prop :=
  ∀ p, p <+: path → p ≠ path → fs.entry p ≠ .nothing

lemma entry_nil_ne_nothing (fs : FileSystem) : fs.entry [] ≠ .nothing := by
  rw [entry]
  cases fs.files.lookup [] <;> simp [FilePath.isAround]

lemma rooted_nil (fs : FileSystem) : fs.Rooted [] :=
  fun _ hstart hne => absurd (List.prefix_nil.mp hstart) hne

lemma Rooted.concat {path : FilePath} (h : fs.Rooted path) (hentry : fs.entry path ≠ .nothing)
    (part : String) : fs.Rooted (path ++ [part]) := by
  intro p hstart hne
  have hstart : p <+: path := (List.prefix_concat_iff.mp hstart).resolve_left hne
  by_cases hp : p = path
  · exact hp ▸ hentry
  · exact h p hstart hp

lemma Rooted.dropLast {path : FilePath} (h : fs.Rooted path) : fs.Rooted path.dropLast := by
  intro p hstart hne
  have hdrop := List.dropLast_prefix path
  refine h p (hstart.trans hdrop) ?_
  rintro rfl
  exact hne (hstart.eq_of_length_le (by simp))

lemma rooted_origin (fs : FileSystem) (name : String) : fs.Rooted (FilePath.origin name) := by
  rw [FilePath.origin]
  split_ifs
  · exact (rooted_nil fs).concat (entry_nil_ne_nothing fs) "/"
  · exact rooted_nil fs

lemma Rooted.parent {path : FilePath} (h : fs.Rooted path) (hentry : fs.entry path ≠ .nothing) :
    fs.Rooted path.parent := by
  rw [FilePath.parent]
  split
  · exact (rooted_nil fs).concat (entry_nil_ne_nothing fs) ".."
  · exact h.concat hentry ".."
  · exact h
  · exact h.dropLast

/-- Going on is for directories only, so there is something on the whole way. -/
lemma Rooted.walk {parts : List String} {path q : FilePath} (h : fs.Rooted path)
    (hwalk : fs.walk path parts = .ok q) : fs.Rooted q := by
  induction parts generalizing path with
  | nil => exact Except.ok.inj hwalk ▸ h
  | cons part parts ih =>
      rw [FileSystem.walk] at hwalk
      cases hentry : fs.entry path with
      | nothing => simp [hentry] at hwalk
      | file content => simp [hentry] at hwalk
      | directory =>
          have hsome : fs.entry path ≠ .nothing := by simp [hentry]
          simp only [hentry] at hwalk
          split_ifs at hwalk with hstay hback hlong
          · exact ih h hwalk
          · exact ih (h.parent hsome) hwalk
          · exact ih (h.concat hsome part) hwalk

lemma rooted_of_locate {path : FilePath} (h : fs.locate name = .ok path) : fs.Rooted path := by
  rw [locate] at h
  cases hname : checkName name with
  | error fault => simp [hname, bind, Except.bind] at h
  | ok _ =>
      simp only [hname, bind, Except.bind] at h
      exact (rooted_origin fs name).walk h

/-- The way along a name depends on the directories only. -/
lemma walk_of_directories (hdir : ∀ p, fs.entry p = .directory → fs'.entry p = .directory)
    {parts : List String} {path q : FilePath} (h : fs.walk path parts = .ok q) :
    fs'.walk path parts = .ok q := by
  induction parts generalizing path with
  | nil => exact h
  | cons part parts ih =>
      rw [walk] at h ⊢
      cases hentry : fs.entry path with
      | nothing => simp [hentry] at h
      | file content => simp [hentry] at h
      | directory =>
          simp only [hentry, hdir path hentry] at h ⊢
          split_ifs at h ⊢ with hstay hback hlong
          · exact ih h
          · exact ih h
          · exact ih h

lemma locate_of_directories (hdir : ∀ p, fs.entry p = .directory → fs'.entry p = .directory)
    {path : FilePath} (h : fs.locate name = .ok path) : fs'.locate name = .ok path := by
  rw [locate] at h ⊢
  cases hname : checkName name with
  | error fault => simp [hname, bind, Except.bind] at h
  | ok _ =>
      simp only [hname, bind, Except.bind] at h ⊢
      exact walk_of_directories hdir h

/-- Where a file can be made is where it is looked for. -/
lemma locate_of_locateNew {path : FilePath} (h : fs.locateNew name = .ok path) :
    fs.locate name = .ok path := by
  rw [locateNew] at h
  split_ifs at h with hdir
  · simp only [bind, Except.bind] at h
    split at h
    · cases h
    · split at h
      · cases h
      · cases h
  · exact h

/-! ## Reading and writing -/

lemma read_eq_ok_iff {text : String} :
    fs.read name = .ok text ↔ ∃ path, fs.locate name = .ok path ∧ fs.entry path = .file text := by
  rw [read]
  cases fs.locate name with
  | error fault => exact iff_of_false nofun nofun
  | ok path =>
      simp only [bind, Except.bind]
      cases hentry : fs.entry path with
      | file old => simp [hentry, pure, Except.pure]
      | directory => exact iff_of_false nofun (by simp [hentry])
      | nothing => exact iff_of_false nofun (by simp [hentry])

/-- A file can be written if there is a place for it that is no directory. -/
lemma write_eq_ok_iff : fs.write name content = .ok fs'
    ↔ ∃ path, fs.locateNew name = .ok path ∧ fs.entry path ≠ .directory
      ∧ fs' = ⟨put path content fs.files⟩ := by
  rw [write]
  cases fs.locateNew name with
  | error fault => exact iff_of_false nofun nofun
  | ok path =>
      simp only [bind, Except.bind]
      cases hentry : fs.entry path with
      | directory => exact iff_of_false nofun (by simp [hentry])
      | file old => simp [hentry, pure, Except.pure, eq_comm]
      | nothing => simp [hentry, pure, Except.pure, eq_comm]

/-- Any text can be written to a file with this name. -/
def Writable (fs : FileSystem) (name : String) : Prop :=
  ∀ content, ∃ fs', fs.write name content = .ok fs'

/-- Which text it is makes no difference. -/
lemma writable_iff :
    fs.Writable name ↔ ∃ path, fs.locateNew name = .ok path ∧ fs.entry path ≠ .directory := by
  simp only [Writable, write_eq_ok_iff]
  constructor
  · intro h
    obtain ⟨fs', path, hpath, hentry, -⟩ := h ""
    exact ⟨path, hpath, hentry⟩
  · rintro ⟨path, hpath, hentry⟩ content
    exact ⟨_, path, hpath, hentry, rfl⟩

lemma writable_of_write (h : fs.write name content = .ok fs') : fs.Writable name := by
  obtain ⟨path, hpath, hentry, -⟩ := write_eq_ok_iff.mp h
  exact writable_iff.mpr ⟨path, hpath, hentry⟩

/-- **What was written is read.** -/
theorem read_write (h : fs.write name content = .ok fs') : fs'.read name = .ok content := by
  obtain ⟨path, hpath, hentry, rfl⟩ := write_eq_ok_iff.mp h
  refine read_eq_ok_iff.mpr ⟨path, ?_, entry_put_self fs path content⟩
  exact locate_of_directories (fun _ => entry_put_of_directory content hentry)
    (locate_of_locateNew hpath)

/-- **A written file is where its name leads, and nothing else is other than before.** -/
theorem entry_write (h : fs.write name content = .ok fs') :
    ∃ path, fs.locateNew name = .ok path ∧ fs'.entry path = .file content
      ∧ ∀ p, p ≠ path → fs'.entry p = fs.entry p := by
  obtain ⟨path, hpath, hentry, rfl⟩ := write_eq_ok_iff.mp h
  refine ⟨path, hpath, entry_put_self fs path content, fun p hne => ?_⟩
  cases hp : fs.entry p with
  | file old => exact entry_put_of_file content hne hp
  | directory => exact entry_put_of_directory content hentry hp
  | nothing =>
      refine entry_put_of_nothing content (fun hstart => ?_) hp
      exact rooted_of_locate (locate_of_locateNew hpath) p hstart hne hp

end Placeholders.FileSystem
