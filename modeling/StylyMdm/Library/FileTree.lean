import Mathlib

/-!
# Trees of files

A directory with what is below it. A path is the list of its components, the empty path the
directory itself. The structure carries what a file system guarantees: one content for each file,
a directory for each step on the way to it, and nothing that is both a file and a directory. So no
file lies below another one (`FileTree.eq_of_leading`).

Two operations are enough for what is built from parts: `put`, which makes the directories of a
file and overwrites what was there under its path, and `mkdirs`. Both fail where a file is in the
way; `put_eq_some` and `exists_put` say when they do not, and what there is afterwards.

Trees differ from the disks of `Library.Disk` in that their names are exact and in that a file can
be looked up without resolving its directories. Archives are read into trees, disks are what the
trees are then written to.
-/

instance pathLawfulBEq {α : Type*} [DecidableEq α] : LawfulBEq (List α) := inferInstance

/-- The directories on the way to a path, the outermost first. -/
def ancestors {α : Type*} [DecidableEq α] (path : List α) : List (List α) :=
  path.inits.filter fun dir => dir ≠ [] ∧ dir ≠ path

section Ancestors

variable {α : Type*} [DecidableEq α]

theorem mem_ancestors {dir path : List α} :
    dir ∈ ancestors path ↔ dir ≠ [] ∧ dir <+: path ∧ dir ≠ path := by
  rw [ancestors, List.mem_filter, List.mem_inits, decide_eq_true_iff]
  tauto

theorem ancestors_subset {dir path : List α} (h : dir ∈ ancestors path) :
    ancestors dir ⊆ ancestors path := by
  obtain ⟨-, hpre, hne⟩ := mem_ancestors.mp h
  intro above habove
  obtain ⟨hnil, habove, -⟩ := mem_ancestors.mp habove
  refine mem_ancestors.mpr ⟨hnil, habove.trans hpre, ?_⟩
  rintro rfl
  exact hne (hpre.eq_of_length (Nat.le_antisymm hpre.length_le habove.length_le))

end Ancestors

/-- The files and directories below a directory. -/
structure FileTree (α β : Type*) [DecidableEq α] where
  dirs : List (List α)
  files : List (List α × β)
  nodup : (files.map Prod.fst).Nodup
  dirs_of_file : ∀ file ∈ files, ∀ dir ∈ ancestors file.1, dir ∈ dirs
  disjoint : ∀ file ∈ files, file.1 ≠ [] ∧ file.1 ∉ dirs

namespace FileTree

variable {α β : Type*} [DecidableEq α] {t t' : FileTree α β} {path : List α} {content : β}

/-- An empty directory. -/
def empty : FileTree α β where
  dirs := []
  files := []
  nodup := List.nodup_nil
  dirs_of_file := by simp
  disjoint := by simp

/-- The content of a file. -/
def read (t : FileTree α β) (path : List α) : Option β := t.files.lookup path

/-- Is there a file at the path?. -/
def isFile (t : FileTree α β) (path : List α) : Bool := path ∈ t.files.map Prod.fst

/-- Is there a directory at the path? The root is one. -/
def isDir (t : FileTree α β) (path : List α) : Bool := path = [] ∨ path ∈ t.dirs

/-- A file with this content; its directories are made, and one that was there is overwritten. -/
def put (t : FileTree α β) (path : List α) (content : β) : Option (FileTree α β) :=
  if h : path ≠ [] ∧ path ∉ t.dirs ∧ ∀ dir ∈ ancestors path, dir ∉ t.files.map Prod.fst then
    some
      { dirs := t.dirs ++ (ancestors path).filter fun dir => dir ∉ t.dirs
        files := (t.files.filter fun file => file.1 ≠ path) ++ [(path, content)]
        nodup := by
          rw [List.map_append, List.map_singleton]
          refine List.nodup_append.mpr ⟨?_, List.nodup_singleton _, ?_⟩
          · exact t.nodup.sublist (List.filter_sublist.map Prod.fst)
          · intro above habove last hlast
            obtain ⟨file, hfile, rfl⟩ := List.mem_map.mp habove
            rw [List.mem_singleton.mp hlast]
            simpa using (List.mem_filter.mp hfile).2
        dirs_of_file := by
          intro file hfile dir hdir
          rw [List.mem_append, List.mem_filter]
          rcases List.mem_append.mp hfile with hfile | hfile
          · exact .inl (t.dirs_of_file file (List.mem_filter.mp hfile).1 dir hdir)
          · rw [List.mem_singleton.mp hfile] at hdir
            by_cases hold : dir ∈ t.dirs
            · exact .inl hold
            · exact .inr ⟨hdir, by simpa using hold⟩
        disjoint := by
          intro file hfile
          rw [List.mem_append, List.mem_filter, not_or]
          rcases List.mem_append.mp hfile with hfile | hfile
          · have hmem := (List.mem_filter.mp hfile).1
            obtain ⟨hne, hdirs⟩ := t.disjoint file hmem
            exact ⟨hne, hdirs, fun hnew => h.2.2 _ hnew.1 (List.mem_map_of_mem hmem)⟩
          · rw [List.mem_singleton.mp hfile]
            exact ⟨h.1, h.2.1, fun hnew => (mem_ancestors.mp hnew.1).2.2 rfl⟩ }
  else none

/-- A directory with those on the way to it. -/
def mkdirs (t : FileTree α β) (dir : List α) : Option (FileTree α β) :=
  if h : dir ∉ t.files.map Prod.fst ∧ ∀ above ∈ ancestors dir, above ∉ t.files.map Prod.fst then
    some
      { t with
        dirs := t.dirs ++ (ancestors dir ++ [dir]).filter fun dir => dir ≠ [] ∧ dir ∉ t.dirs
        dirs_of_file := by
          intro file hfile above habove
          exact List.mem_append_left _ (t.dirs_of_file file hfile above habove)
        disjoint := by
          intro file hfile
          obtain ⟨hne, hdirs⟩ := t.disjoint file hfile
          refine ⟨hne, ?_⟩
          rw [List.mem_append, List.mem_filter, List.mem_append, not_or]
          refine ⟨hdirs, ?_⟩
          rintro ⟨hnew | hnew, -⟩
          · exact h.2 _ hnew (List.mem_map_of_mem hfile)
          · rw [List.mem_singleton] at hnew
            exact h.1 (hnew ▸ List.mem_map_of_mem hfile) }
  else none

theorem lookup_eq_some_iff {files : List (List α × β)} (hnodup : (files.map Prod.fst).Nodup) :
    files.lookup path = some content ↔ (path, content) ∈ files := by
  induction files with
  | nil => simp
  | cons file files ih =>
    obtain ⟨first, bytes⟩ := file
    rw [List.map_cons, List.nodup_cons] at hnodup
    rw [List.lookup_cons, List.mem_cons, Prod.mk.injEq]
    by_cases heq : path = first
    · subst heq
      have habsent : (path, content) ∉ files := fun hmem =>
        hnodup.1 (List.mem_map.mpr ⟨_, hmem, rfl⟩)
      simp [habsent, eq_comm]
    · have hbeq : (path == first) = false := beq_eq_false_iff_ne.mpr heq
      simp only [hbeq]
      rw [ih hnodup.2]
      simp [heq]

theorem read_eq_some_iff : t.read path = some content ↔ (path, content) ∈ t.files :=
  lookup_eq_some_iff t.nodup

/-- No file lies below another one. -/
theorem eq_of_leading {file file' : List α × β} (h : file ∈ t.files) (h' : file' ∈ t.files)
    (hpre : file.1 <+: file'.1) : file.1 = file'.1 := by
  by_contra hne
  obtain ⟨hnil, hdirs⟩ := t.disjoint file h
  exact hdirs (t.dirs_of_file file' h' _ (mem_ancestors.mpr ⟨hnil, hpre, hne⟩))

/-- When a file can be put, and what is there afterwards. -/
theorem put_eq_some (hput : t.put path content = some t') :
    path ≠ [] ∧ path ∉ t.dirs ∧ (∀ dir ∈ ancestors path, dir ∉ t.files.map Prod.fst) ∧
      t'.dirs = t.dirs ++ (ancestors path).filter (fun dir => dir ∉ t.dirs) ∧
      t'.files = t.files.filter (fun file => file.1 ≠ path) ++ [(path, content)] := by
  rw [put] at hput
  split at hput
  · rename_i h
    obtain rfl := Option.some.inj hput
    exact ⟨h.1, h.2.1, h.2.2, rfl, rfl⟩
  · exact absurd hput (by simp)

theorem exists_put (content : β) (h : path ≠ [] ∧ path ∉ t.dirs ∧
    ∀ dir ∈ ancestors path, dir ∉ t.files.map Prod.fst) :
    ∃ t', t.put path content = some t' := by
  rw [put, dif_pos h]
  exact ⟨_, rfl⟩

/-- The directories after a file is put. -/
theorem mem_dirs_put (hput : t.put path content = some t') {dir : List α} :
    dir ∈ t'.dirs ↔ dir ∈ t.dirs ∨ dir ∈ ancestors path := by
  rw [(put_eq_some hput).2.2.2.1, List.mem_append, List.mem_filter, decide_eq_true_iff]
  tauto

/-- When a directory can be made, and what is there afterwards. -/
theorem exists_mkdirs {dir : List α} (hne : dir ≠ []) (h : dir ∉ t.files.map Prod.fst)
    (habove : ∀ above ∈ ancestors dir, above ∉ t.files.map Prod.fst) :
    ∃ t', t.mkdirs dir = some t' ∧ t'.files = t.files ∧
      ∀ path, path ∈ t'.dirs ↔ path ∈ t.dirs ∨ path ∈ ancestors dir ∨ dir = path := by
  rw [mkdirs, dif_pos ⟨h, habove⟩]
  refine ⟨_, rfl, rfl, fun path => ?_⟩
  have hancestor : path ∈ ancestors dir → path ≠ [] := fun hmem => (mem_ancestors.mp hmem).1
  have hself : dir = path → path ≠ [] := fun heq => heq ▸ hne
  rw [List.mem_append, List.mem_filter, List.mem_append, List.mem_singleton, decide_eq_true_iff,
    eq_comm (a := path)]
  tauto

theorem filter_ne_of_new (hnew : path ∉ t.files.map Prod.fst) :
    t.files.filter (fun file => file.1 ≠ path) = t.files := by
  rw [List.filter_eq_self]
  intro file hfile
  rw [decide_eq_true_iff]
  rintro rfl
  exact hnew (List.mem_map_of_mem hfile)

/-- A new file comes to the others. -/
theorem files_put_of_new (hput : t.put path content = some t')
    (hnew : path ∉ t.files.map Prod.fst) : t'.files = t.files ++ [(path, content)] := by
  rw [(put_eq_some hput).2.2.2.2, filter_ne_of_new hnew]

/-- A new file that is put empty and then with its content comes to the others. -/
theorem files_put_put {empty : β} (hempty : t.put path empty = some t')
    (hnew : path ∉ t.files.map Prod.fst) {t'' : FileTree α β}
    (hput : t'.put path content = some t'') : t''.files = t.files ++ [(path, content)] := by
  rw [(put_eq_some hput).2.2.2.2, files_put_of_new hempty hnew, List.filter_append,
    filter_ne_of_new hnew]
  simp

end FileTree
