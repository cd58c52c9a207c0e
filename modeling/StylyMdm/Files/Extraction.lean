import StylyMdm.Library.Run
import StylyMdm.Files.Agreement
import StylyMdm.Files.Bundle

/-!
# Which archives are extracted

`validateAndExtract` goes through the entries of an archive once. What it has seen it keeps in a
map from paths to kinds, into which each entry also writes the directories on its way. So a file
meets an entry below it in one order by its own kind, in the other by a mark on the way.

`Unpacked` says what the state is after any entries, files and directories, and `Joins` what the
next entry has to meet. As an archive with one more entry can be unpacked when the entry joins
the others (`unpackable_concat`), the loop accepts the unpackable archives, whatever the order of
their entries.

`Unpackable` does not mention an order: valid names, all different, no entry below a file, and the
limits on their number and size. The proof is by
induction on the archive from its end. `Unpacked.step` is the step lemma, `Unpacked.run` the loop,
and `validateAndExtract_accepts_iff` the result, with the tree that is extracted.

The content of a directory entry is never read, so it is not counted either; the last archive has
one.
-/

namespace StylyMdm.Files

open Text

/-! ### The entries -/

/-- The name of an entry as it is compared: with `/` for each `\`, and none at the end. -/
def Entry.relative (entry : Entry) : Str := (slashes entry.name).rdropWhile fun c => c = slash

/-- The path of an entry below the staging directory. -/
def Entry.path (entry : Entry) : List Str := components entry.relative

theorem Entry.join_path (entry : Entry) : join entry.path = entry.relative :=
  join_components entry.relative

theorem Entry.relative_eq_of_path {entry entry' : Entry} (h : entry.path = entry'.path) :
    entry.relative = entry'.relative := by
  rw [← entry.join_path, h, entry'.join_path]

theorem Entry.path_ne_nil (entry : Entry) : entry.path ≠ [] := components_ne_nil entry.relative

/-- The names that `validateEntryName` takes. -/
def Entry.ValidName (entry : Entry) : Prop :=
  ∃ relative, validateEntryName entry.name = .ok relative

theorem isBlank_nil : isBlank [] = true := rfl

theorem nul_not_mem_slashes {text : Str} (h : 0 ∉ text) : 0 ∉ slashes text := by
  intro hmem
  obtain ⟨c, hc, heq⟩ := List.mem_map.mp hmem
  split_ifs at heq with hback
  · exact absurd heq (by decide)
  · exact h (heq ▸ hc)

/-- A valid name comes back in its one spelling, and its components name something. -/
theorem Entry.ValidName.spec {entry : Entry} (h : entry.ValidName) :
    validateEntryName entry.name = .ok entry.relative ∧ ∀ part ∈ entry.path, Proper part := by
  obtain ⟨relative, h⟩ := h
  simp only [validateEntryName] at h ⊢
  split_ifs at h with hinvalid hunsafe
  rw [if_neg hinvalid, if_neg hunsafe]
  refine ⟨rfl, ?_⟩
  simp only [Bool.or_eq_true, decide_eq_true_iff, not_or] at hinvalid
  rw [Bool.or_eq_true, not_or, List.any_eq_true] at hunsafe
  intro part hpart
  have hsub : part ⊆ slashes entry.name := fun c hc =>
    (List.rdropWhile_prefix _ _).subset (subset_of_mem_components hpart hc)
  have hsafe : ¬ (isBlank part = true ∨ part = dot ∨ part = dotdot) := by
    intro hbad
    refine hunsafe.2 ⟨part, hpart, ?_⟩
    simp only [Bool.or_eq_true, decide_eq_true_iff]
    rwa [or_assoc]
  rw [not_or, not_or] at hsafe
  refine ⟨?_, hsafe.2.1, hsafe.2.2, slash_not_mem_of_mem_components hpart, ?_, ?_⟩
  · rintro rfl
    exact hsafe.1 isBlank_nil
  · exact fun hmem => backslash_not_mem_slashes _ (hsub hmem)
  · exact fun hmem => nul_not_mem_slashes hinvalid.1.1.2 (hsub hmem)

/-- The path of a valid name goes below the staging directory. -/
theorem canonicalTarget_eq {entry : Entry} (root : List Str)
    (h : ∀ part ∈ entry.path, Proper part) :
    canonicalTarget root entry.relative = root ++ entry.path := by
  rw [canonicalTarget]
  change entry.path.foldl _ root = _
  revert h
  generalize entry.path = path
  intro h
  induction path generalizing root with
  | nil => rw [List.foldl_nil, List.append_nil]
  | cons part path ih =>
    rw [List.forall_mem_cons] at h
    have hpart := h.1
    rw [List.foldl_cons, if_neg (by simp [hpart.ne_nil, hpart.ne_dot]), if_neg hpart.ne_dotdot,
      ih _ h.2, List.append_assoc]
    rfl

/-- The number of bytes in the files among the entries. The data of a directory is not read. -/
def contentBytes (entries : List Entry) : Nat :=
  ((entries.filter fun entry => !entry.isDirectory).map fun entry => entry.content.length).sum

theorem contentBytes_concat (entries : List Entry) (entry : Entry) :
    contentBytes (entries ++ [entry]) =
      contentBytes entries + if entry.isDirectory then 0 else entry.content.length := by
  rw [contentBytes, List.filter_append, List.map_append, List.sum_append, contentBytes]
  cases h : entry.isDirectory <;> simp [h]

/-- The archives that can be extracted. No file stands on the way to another entry. -/
structure Unpackable (worker : PushFilesWorker) (entries : List Entry) : Prop where
  count_le : entries.length ≤ maxArchiveEntries
  bytes_le : contentBytes entries ≤ worker.maxExtractedBytes
  names : ∀ entry ∈ entries, entry.ValidName
  nodup : (entries.map Entry.relative).Nodup
  apart : ∀ file ∈ entries, file.isDirectory = false → ∀ entry ∈ entries,
    file.path <+: entry.path → file.path = entry.path

theorem Unpackable.perm {worker : PushFilesWorker} {entries entries' : List Entry}
    (h : Unpackable worker entries) (hperm : entries'.Perm entries) :
    Unpackable worker entries' where
  count_le := hperm.length_eq ▸ h.count_le
  bytes_le := by
    rw [contentBytes, ((hperm.filter _).map _).sum_eq]
    exact h.bytes_le
  names entry hentry := h.names entry (hperm.mem_iff.mp hentry)
  nodup := (hperm.map Entry.relative).nodup_iff.mpr h.nodup
  apart file hfile hkind entry hentry :=
    h.apart file (hperm.mem_iff.mp hfile) hkind entry (hperm.mem_iff.mp hentry)

/-- The entries before others can be unpacked as they all can. -/
theorem Unpackable.of_append {worker : PushFilesWorker} {entries later : List Entry}
    (h : Unpackable worker (entries ++ later)) : Unpackable worker entries where
  count_le := by
    have hle := h.count_le
    rw [List.length_append] at hle
    omega
  bytes_le := by
    have hle := h.bytes_le
    rw [contentBytes, List.filter_append, List.map_append, List.sum_append] at hle
    exact (Nat.le_add_right _ _).trans hle
  names entry hentry := h.names entry (List.mem_append_left _ hentry)
  nodup := (List.map_append ▸ h.nodup).of_append_left
  apart file hfile hkind entry hentry :=
    h.apart file (List.mem_append_left _ hfile) hkind entry (List.mem_append_left _ hentry)

/-- The entry can come after the others. -/
structure Joins (worker : PushFilesWorker) (entries : List Entry) (entry : Entry) : Prop where
  count_le : entries.length + 1 ≤ maxArchiveEntries
  bytes_le : contentBytes (entries ++ [entry]) ≤ worker.maxExtractedBytes
  name : entry.ValidName
  new : entry.relative ∉ entries.map Entry.relative
  below : ∀ file ∈ entries, file.isDirectory = false → ¬ file.path <+: entry.path
  above : entry.isDirectory = false → ∀ entry' ∈ entries, ¬ entry.path <+: entry'.path

/-- An archive is unpackable entry by entry. -/
theorem unpackable_concat {worker : PushFilesWorker} {entries : List Entry} {entry : Entry} :
    Unpackable worker (entries ++ [entry]) ↔
      Unpackable worker entries ∧ Joins worker entries entry := by
  constructor
  · intro h
    have hold : ∀ entry' ∈ entries, entry' ∈ entries ++ [entry] := fun entry' h =>
      List.mem_append_left _ h
    have hlast : entry ∈ entries ++ [entry] := by simp
    have hcount := h.count_le
    have hbytes := h.bytes_le
    have hnodup := h.nodup
    rw [List.length_append, List.length_singleton] at hcount
    rw [contentBytes_concat] at hbytes
    rw [List.map_append, List.map_singleton, List.nodup_append] at hnodup
    have hnew : entry.relative ∉ entries.map Entry.relative := fun hmem =>
      hnodup.2.2 _ hmem _ (List.mem_singleton_self _) rfl
    have hdistinct : ∀ entry' ∈ entries, entry'.path ≠ entry.path := by
      intro entry' hmem heq
      refine hnew ?_
      rw [← Entry.relative_eq_of_path heq]
      exact List.mem_map_of_mem hmem
    constructor
    · exact ⟨by omega, by omega, fun entry' hmem => h.names entry' (hold entry' hmem), hnodup.1,
        fun file hfile hkind entry' hmem =>
          h.apart file (hold file hfile) hkind entry' (hold entry' hmem)⟩
    · exact ⟨hcount, h.bytes_le, h.names entry hlast, hnew,
        fun file hfile hkind hpre =>
          hdistinct file hfile (h.apart file (hold file hfile) hkind entry hlast hpre),
        fun hkind entry' hmem hpre =>
          hdistinct entry' hmem (h.apart entry hlast hkind entry' (hold entry' hmem) hpre).symm⟩
  · rintro ⟨h, hjoins⟩
    refine ⟨?_, hjoins.bytes_le, ?_, ?_, ?_⟩
    · rw [List.length_append, List.length_singleton]
      exact hjoins.count_le
    · rw [List.forall_mem_append]
      exact ⟨h.names, fun entry' hmem => List.mem_singleton.mp hmem ▸ hjoins.name⟩
    · rw [List.map_append, List.map_singleton, List.nodup_append]
      refine ⟨h.nodup, List.nodup_singleton _, ?_⟩
      intro name hname last hlast heq
      rw [List.mem_singleton.mp hlast] at heq
      exact hjoins.new (heq ▸ hname)
    · intro file hfile hkind entry' hmem hpre
      rw [List.mem_append, List.mem_singleton] at hfile hmem
      rcases hfile with hfile | rfl
      · rcases hmem with hmem | rfl
        · exact h.apart file hfile hkind entry' hmem hpre
        · exact absurd hpre (hjoins.below file hfile hkind)
      · rcases hmem with hmem | rfl
        · exact absurd hpre (hjoins.above hkind entry' hmem)
        · rfl

/-! ### One entry -/

/-- The entries bring a file of this path. -/
def HasFile (entries : List Entry) (path : List Str) : Prop :=
  ∃ file ∈ entries, file.isDirectory = false ∧ file.path = path

/-- The entries bring a directory of this path, on the way to an entry or as one. -/
def HasDir (entries : List Entry) (path : List Str) : Prop :=
  ∃ entry ∈ entries, path ∈ ancestors entry.path ∨ entry.isDirectory = true ∧ entry.path = path

section Concat

variable {entries : List Entry} {entry : Entry} {path : List Str}

theorem hasFile_concat : HasFile (entries ++ [entry]) path ↔
    HasFile entries path ∨ entry.isDirectory = false ∧ entry.path = path := by
  simp only [HasFile, List.mem_append, List.mem_singleton, or_and_right, exists_or,
    exists_eq_left]

theorem hasDir_concat : HasDir (entries ++ [entry]) path ↔ HasDir entries path ∨
    path ∈ ancestors entry.path ∨ entry.isDirectory = true ∧ entry.path = path := by
  simp only [HasDir, List.mem_append, List.mem_singleton, or_and_right, exists_or, exists_eq_left]

/-- The names of the directories on the way to an entry. -/
theorem mem_ancestor_names {name : Str} :
    name ∈ (ancestors entry.path).map join ↔ components name ∈ ancestors entry.path := by
  rw [List.mem_map]
  constructor
  · rintro ⟨dir, hdir, rfl⟩
    obtain ⟨hne, hpre, -⟩ := mem_ancestors.mp hdir
    rwa [components_join (fun part hpart =>
      slash_not_mem_of_mem_components (hpre.subset hpart)) hne]
  · exact fun h => ⟨components name, h, join_components name⟩

theorem not_mem_ancestors_self : path ∉ ancestors path := fun h => (mem_ancestors.mp h).2.2 rfl

end Concat

/-- The ancestors of an entry become directories, when none of them is a file. -/
theorem markAncestors_eq_ok_iff {dirs : List Str} {kinds kinds' : Str → Option Bool} :
    markAncestors kinds dirs = .ok kinds' ↔ (∀ dir ∈ dirs, kinds dir ≠ some false) ∧
      kinds' = fun name => if name ∈ dirs then some true else kinds name := by
  induction dirs generalizing kinds with
  | nil => simp [markAncestors, eq_comm]
  | cons dir dirs ih =>
    rw [markAncestors, List.forall_mem_cons]
    by_cases hfile : kinds dir = some false
    · simp [hfile]
    · rw [if_neg hfile, ih]
      have hmarks : (∀ above ∈ dirs, Function.update kinds dir (some true) above ≠ some false) ↔
          ∀ above ∈ dirs, kinds above ≠ some false := by
        refine forall₂_congr fun above habove => ?_
        by_cases heq : above = dir
        · rw [heq, Function.update_self]
          simp [hfile]
        · rw [Function.update_of_ne heq]
      have hkinds : (fun name => if name ∈ dirs then some true
          else Function.update kinds dir (some true) name) =
          fun name => if name ∈ dir :: dirs then some true else kinds name := by
        funext name
        by_cases heq : name = dir
        · simp [heq]
        · simp [heq]
      rw [hmarks, hkinds]
      simp [hfile]

/-- Within the limit an entry is copied. -/
theorem copyEntry_eq_ok_iff {worker : PushFilesWorker} {reads : List Bytes} {extractedBytes : Nat}
    {written : Bytes} {result : Nat × Bytes} (h : extractedBytes ≤ worker.maxExtractedBytes) :
    copyEntry worker extractedBytes written reads = .ok result ↔
      extractedBytes + reads.flatten.length ≤ worker.maxExtractedBytes ∧
        result = (extractedBytes + reads.flatten.length, written ++ reads.flatten) := by
  induction reads generalizing extractedBytes written with
  | nil => simp [copyEntry, h, eq_comm]
  | cons read reads ih =>
    have hlong := worker.le_maxLong
    rw [copyEntry, List.flatten_cons, List.length_append, ← Nat.add_assoc, ← List.append_assoc]
    by_cases hle : extractedBytes + read.length ≤ worker.maxExtractedBytes
    · rw [if_neg (by omega), if_neg (by omega), ih hle]
    · refine iff_of_false ?_ (by omega)
      split_ifs
      · exact nofun
      · exact nofun
      · omega

/-- The file of an entry comes to those that are there. -/
theorem openTarget_eq {staging : Tree} {path : List Str} (content : Bytes)
    (hnew : path ∉ staging.files.map Prod.fst)
    (h : path ≠ [] ∧ path ∉ staging.dirs ∧
      ∀ dir ∈ ancestors path, dir ∉ staging.files.map Prod.fst) :
    ∃ opened extracted, openTarget staging path = .ok opened ∧
      opened.put path content = some extracted ∧
      extracted.files = staging.files ++ [(path, content)] ∧
      ∀ dir, dir ∈ extracted.dirs ↔ dir ∈ staging.dirs ∨ dir ∈ ancestors path := by
  obtain ⟨opened, hopened⟩ := FileTree.exists_put ([] : Bytes) h
  have hfiles := FileTree.files_put_of_new hopened hnew
  have hput : path ≠ [] ∧ path ∉ opened.dirs ∧
      ∀ dir ∈ ancestors path, dir ∉ opened.files.map Prod.fst := by
    refine ⟨h.1, ?_, ?_⟩
    · rw [FileTree.mem_dirs_put hopened]
      rintro (hmem | hmem)
      · exact h.2.1 hmem
      · exact not_mem_ancestors_self hmem
    · intro dir hdir hmem
      rw [hfiles, List.map_append, List.map_singleton, List.mem_append, List.mem_singleton] at hmem
      rcases hmem with hmem | rfl
      · exact h.2.2 dir hdir hmem
      · exact not_mem_ancestors_self hdir
  obtain ⟨extracted, hextracted⟩ := FileTree.exists_put content hput
  refine ⟨opened, extracted, by rw [openTarget, hopened], hextracted,
    FileTree.files_put_put hopened hnew hextracted, ?_⟩
  intro dir
  rw [FileTree.mem_dirs_put hextracted, FileTree.mem_dirs_put hopened]
  tauto

/-- A directory comes to those that are there, with the ones on its way. -/
theorem makeDirectory_eq {staging : Tree} {path : List Str} (hne : path ≠ [])
    (hnew : path ∉ staging.files.map Prod.fst)
    (habove : ∀ dir ∈ ancestors path, dir ∉ staging.files.map Prod.fst)
    (hclosed : path ∈ staging.dirs → ∀ dir ∈ ancestors path, dir ∈ staging.dirs) :
    ∃ made, (if staging.isDir path || staging.isFile path then some staging
        else staging.mkdirs path) = some made ∧ made.files = staging.files ∧
      ∀ dir, dir ∈ made.dirs ↔ dir ∈ staging.dirs ∨ dir ∈ ancestors path ∨ path = dir := by
  have hfile : staging.isFile path = false := by
    rw [FileTree.isFile, decide_eq_false_iff_not]
    exact hnew
  rw [hfile, Bool.or_false, FileTree.isDir]
  by_cases hdir : path ∈ staging.dirs
  · refine ⟨staging, if_pos (by simp [hdir]), rfl, fun dir => ⟨Or.inl, ?_⟩⟩
    rintro (h | h | rfl)
    · exact h
    · exact hclosed hdir dir h
    · exact hdir
  · obtain ⟨made, hmade, hfiles, hdirs⟩ := FileTree.exists_mkdirs hne hnew habove
    exact ⟨made, by rw [if_neg (by simp [hne, hdir]), hmade], hfiles, hdirs⟩

/-- The checks of an entry that come before its content. -/
structure Passes (state : Extraction) (entry : Entry) : Prop where
  count_le : state.entryCount + 1 ≤ maxArchiveEntries
  name : entry.ValidName
  seen : entry.relative ∉ state.seen
  marks : ∀ name ∈ (ancestors entry.path).map join, state.kinds name ≠ some false
  kind : state.kinds entry.relative ≠ some !entry.isDirectory

/-- The state with one more entry. -/
def Extraction.withEntry (state : Extraction) (entry : Entry) (extractedBytes : Nat)
    (staging : Tree) : Extraction where
  seen := state.seen ++ [entry.relative]
  kinds := Function.update
    (fun name => if name ∈ (ancestors entry.path).map join then some true else state.kinds name)
    entry.relative (some entry.isDirectory)
  entryCount := state.entryCount + 1
  extractedBytes := extractedBytes
  staging := staging

section WithEntry

variable {state : Extraction} {entry : Entry} {extractedBytes : Nat} {staging : Tree}

@[simp] theorem Extraction.withEntry_kinds_self :
    (state.withEntry entry extractedBytes staging).kinds entry.relative =
      some entry.isDirectory := by
  simp only [Extraction.withEntry, Function.update_self]

theorem Extraction.withEntry_kinds_of_ne {name : Str} (h : name ≠ entry.relative) :
    (state.withEntry entry extractedBytes staging).kinds name =
      if name ∈ (ancestors entry.path).map join then some true else state.kinds name := by
  simp only [Extraction.withEntry, Function.update_of_ne h]

end WithEntry

theorem Entry.relative_not_mem_ancestors (entry : Entry) :
    entry.relative ∉ (ancestors entry.path).map join := by
  rw [mem_ancestor_names]
  exact not_mem_ancestors_self

/-- What is left to do for an entry that passes the checks. -/
theorem extractEntry_eq (worker : PushFilesWorker) (streams : Streams) {root : List Str}
    {state : Extraction} {entry : Entry} (hroot : root ≠ []) (h : Passes state entry) :
    extractEntry worker streams root state entry =
      if entry.isDirectory then
        match if state.staging.isDir entry.path || state.staging.isFile entry.path then
            some state.staging else state.staging.mkdirs entry.path with
        | none => .error .stagingDirectory
        | some staging => .ok (state.withEntry entry state.extractedBytes staging)
      else (do
        let opened ← openTarget state.staging entry.path
        let (extractedBytes, written) ←
          copyEntry worker state.extractedBytes [] (streams.reads entry)
        match opened.put entry.path written with
        | none => .error .invalidZip
        | some staging => .ok (state.withEntry entry extractedBytes staging)) := by
  obtain ⟨hname, hproper⟩ := h.name.spec
  have hmarks := markAncestors_eq_ok_iff.mpr ⟨h.marks, rfl⟩
  have hkind := h.kind
  have hinside : ¬ (root ++ entry.path ≠ root ∧
      !(filePath root ++ [slash]).isPrefixOf (filePath (root ++ entry.path))) := by
    rw [isPrefixOf_filePath hroot entry.path_ne_nil]
    simp
  rw [extractEntry, if_neg (Nat.not_lt.mpr h.count_le), hname]
  simp only [bind, Except.bind]
  rw [if_neg h.seen, show components entry.relative = entry.path from rfl, hmarks]
  simp only [if_neg entry.relative_not_mem_ancestors, if_neg hkind,
    canonicalTarget_eq root hproper, List.drop_left, if_neg hinside, Extraction.withEntry]
  cases entry.isDirectory with
  | true => rfl
  | false => rfl

/-- An entry that is extracted has passed the checks. -/
theorem passes_of_extractEntry {worker : PushFilesWorker} {streams : Streams}
    {root : List Str} {state state' : Extraction} {entry : Entry}
    (h : extractEntry worker streams root state entry = .ok state') : Passes state entry := by
  rw [extractEntry] at h
  by_cases hcount : maxArchiveEntries < state.entryCount + 1
  · rw [if_pos hcount] at h
    exact nomatch h
  rw [if_neg hcount] at h
  obtain ⟨relative, hname, h⟩ := Except.bind_eq_ok.mp h
  have hvalid : entry.ValidName := ⟨relative, hname⟩
  obtain rfl : relative = entry.relative := Except.ok.inj (hname.symm.trans hvalid.spec.1)
  by_cases hseen : entry.relative ∈ state.seen
  · rw [if_pos hseen] at h
    exact nomatch h
  rw [if_neg hseen] at h
  obtain ⟨kinds, hmarks, h⟩ := Except.bind_eq_ok.mp h
  obtain ⟨hmarks, hkinds⟩ := markAncestors_eq_ok_iff.mp hmarks
  refine ⟨by omega, hvalid, hseen, hmarks, fun hkind => ?_⟩
  have hself : kinds entry.relative = state.kinds entry.relative := by
    rw [hkinds]
    exact if_neg entry.relative_not_mem_ancestors
  rw [if_pos (hself.trans hkind)] at h
  exact nomatch h

/-! ### The loop -/

/-- The state after these entries. -/
structure Unpacked (state : Extraction) (entries : List Entry) : Prop where
  seen : state.seen = entries.map Entry.relative
  kinds_file : ∀ name, state.kinds name = some false ↔ HasFile entries (components name)
  kinds_dir : ∀ name, state.kinds name = some true ↔ HasDir entries (components name)
  count : state.entryCount = entries.length
  bytes : state.extractedBytes = contentBytes entries
  files : state.staging.files =
    (entries.filter fun entry => !entry.isDirectory).map fun entry => (entry.path, entry.content)
  dirs : ∀ dir, dir ∈ state.staging.dirs ↔ HasDir entries dir

section Unpacked

variable {state : Extraction} {entries : List Entry} {entry : Entry} {worker : PushFilesWorker}

theorem Unpacked.empty : Unpacked
    { seen := [], kinds := fun _ => none, entryCount := 0, extractedBytes := 0, staging := .empty }
    [] := by
  refine ⟨rfl, ?_, ?_, rfl, rfl, rfl, ?_⟩ <;> simp [HasFile, HasDir, FileTree.empty]

/-- A path of the staging directory is a file when an entry says so. -/
theorem Unpacked.mem_files (h : Unpacked state entries) {path : List Str} :
    path ∈ state.staging.files.map Prod.fst ↔ HasFile entries path := by
  rw [h.files, List.map_map, List.mem_map, HasFile]
  simp only [List.mem_filter, Bool.not_eq_true', Function.comp_apply, and_assoc]

/-- No other entry has the path of one that joins. -/
theorem Joins.path_ne (h : Joins worker entries entry) {entry' : Entry} (hmem : entry' ∈ entries) :
    entry'.path ≠ entry.path := by
  intro heq
  refine h.new ?_
  rw [← Entry.relative_eq_of_path heq]
  exact List.mem_map_of_mem hmem

/-- There is no file on the way to an entry that joins, nor at its place. -/
theorem Joins.not_hasFile (h : Joins worker entries entry) {path : List Str}
    (hpre : path <+: entry.path) : ¬ HasFile entries path := by
  rintro ⟨file, hfile, hkind, rfl⟩
  exact h.below file hfile hkind hpre

/-- No directory is where a file joins. -/
theorem Joins.not_hasDir (h : Joins worker entries entry) (hkind : entry.isDirectory = false) :
    ¬ HasDir entries entry.path := by
  rintro ⟨entry', hmem, hdir | ⟨-, heq⟩⟩
  · exact h.above hkind entry' hmem (mem_ancestors.mp hdir).2.1
  · exact h.path_ne hmem heq

/-- An entry that joins the others passes the checks. -/
theorem Unpacked.passes (h : Unpacked state entries) (hjoins : Joins worker entries entry) :
    Passes state entry := by
  refine ⟨h.count ▸ hjoins.count_le, hjoins.name, h.seen ▸ hjoins.new, ?_, ?_⟩
  · intro name hname hfile
    rw [mem_ancestor_names] at hname
    exact hjoins.not_hasFile (mem_ancestors.mp hname).2.1 ((h.kinds_file name).mp hfile)
  · cases hkind : entry.isDirectory with
    | true =>
      rw [Bool.not_true, Ne, h.kinds_file]
      exact hjoins.not_hasFile List.prefix_rfl
    | false =>
      rw [Bool.not_false, Ne, h.kinds_dir]
      exact hjoins.not_hasDir hkind

/-- An entry that passes the checks joins the others, if its content fits. -/
theorem Unpacked.joins (h : Unpacked state entries) (hpasses : Passes state entry)
    (hbytes : contentBytes (entries ++ [entry]) ≤ worker.maxExtractedBytes) :
    Joins worker entries entry := by
  have hnew : entry.relative ∉ entries.map Entry.relative := h.seen ▸ hpasses.seen
  have hdistinct : ∀ entry' ∈ entries, entry'.path ≠ entry.path := by
    intro entry' hmem heq
    refine hnew ?_
    rw [← Entry.relative_eq_of_path heq]
    exact List.mem_map_of_mem hmem
  refine ⟨h.count ▸ hpasses.count_le, hbytes, hpasses.name, hnew, ?_, ?_⟩
  · intro file hfile hkind hpre
    -- a file on the way would be met as an ancestor
    have hancestor : file.path ∈ ancestors entry.path :=
      mem_ancestors.mpr ⟨file.path_ne_nil, hpre, hdistinct file hfile⟩
    refine hpasses.marks file.relative (mem_ancestor_names.mpr hancestor) ?_
    exact (h.kinds_file file.relative).mpr ⟨file, hfile, hkind, rfl⟩
  · intro hkind entry' hmem hpre
    -- an entry below has left its mark here
    have hancestor : entry.path ∈ ancestors entry'.path :=
      mem_ancestors.mpr ⟨entry.path_ne_nil, hpre, (hdistinct entry' hmem).symm⟩
    refine hpasses.kind ?_
    rw [hkind, Bool.not_false]
    exact (h.kinds_dir entry.relative).mpr ⟨entry', hmem, .inl hancestor⟩

/-- The marks after an entry that joins. -/
theorem Unpacked.withEntry (h : Unpacked state entries) (hjoins : Joins worker entries entry)
    {staging : Tree}
    (hfiles : staging.files = ((entries ++ [entry]).filter fun entry => !entry.isDirectory).map
      fun entry => (entry.path, entry.content))
    (hdirs : ∀ dir, dir ∈ staging.dirs ↔ HasDir (entries ++ [entry]) dir) :
    Unpacked (state.withEntry entry (contentBytes (entries ++ [entry])) staging)
      (entries ++ [entry]) := by
  have hself : ∀ name, name = entry.relative ↔ components name = entry.path := by
    intro name
    constructor
    · rintro rfl
      rfl
    · intro heq
      rw [← join_components name, heq, entry.join_path]
  refine ⟨?_, ?_, ?_, ?_, rfl, hfiles, hdirs⟩
  · rw [List.map_append, ← h.seen]
    rfl
  · intro name
    rw [hasFile_concat]
    by_cases heq : name = entry.relative
    · have hpath : components name = entry.path := (hself name).mp heq
      have hold : ¬ HasFile entries entry.path := hjoins.not_hasFile List.prefix_rfl
      rw [hpath, heq, Extraction.withEntry_kinds_self]
      simp [hold]
    · have hother : entry.path ≠ components name := fun h => heq ((hself name).mpr h.symm)
      rw [Extraction.withEntry_kinds_of_ne heq]
      by_cases hmark : name ∈ (ancestors entry.path).map join
      · have hold : ¬ HasFile entries (components name) :=
          hjoins.not_hasFile (mem_ancestors.mp (mem_ancestor_names.mp hmark)).2.1
        rw [if_pos hmark]
        simp [hold, hother]
      · rw [if_neg hmark, h.kinds_file]
        simp [hother]
  · intro name
    rw [hasDir_concat, ← mem_ancestor_names]
    by_cases heq : name = entry.relative
    · have hpath : components name = entry.path := (hself name).mp heq
      have hmark := entry.relative_not_mem_ancestors
      rw [hpath, heq, Extraction.withEntry_kinds_self]
      cases hkind : entry.isDirectory with
      | true => simp
      | false => simp [hjoins.not_hasDir hkind, hmark]
    · have hother : entry.path ≠ components name := fun h => heq ((hself name).mpr h.symm)
      rw [Extraction.withEntry_kinds_of_ne heq]
      by_cases hmark : name ∈ (ancestors entry.path).map join
      · simp [hmark]
      · rw [if_neg hmark, h.kinds_dir]
        simp [hmark, hother]
  · rw [List.length_append, ← h.count]
    rfl

/-- An entry that joins the others is extracted. -/
theorem Unpacked.step (h : Unpacked state entries) (hjoins : Joins worker entries entry)
    (streams : Streams) {root : List Str} (hroot : root ≠ []) :
    ∃ state', extractEntry worker streams root state entry = .ok state' ∧
      Unpacked state' (entries ++ [entry]) := by
  have hbytes := hjoins.bytes_le
  have hnew : entry.path ∉ state.staging.files.map Prod.fst := by
    rw [h.mem_files]
    exact hjoins.not_hasFile List.prefix_rfl
  have habove : ∀ dir ∈ ancestors entry.path, dir ∉ state.staging.files.map Prod.fst := by
    intro dir hdir
    rw [h.mem_files]
    exact hjoins.not_hasFile (mem_ancestors.mp hdir).2.1
  rw [extractEntry_eq worker streams hroot (h.passes hjoins)]
  rw [contentBytes_concat] at hbytes
  cases hkind : entry.isDirectory with
  | true =>
    rw [hkind, if_pos rfl] at hbytes
    have hclosed : entry.path ∈ state.staging.dirs →
        ∀ dir ∈ ancestors entry.path, dir ∈ state.staging.dirs := by
      intro hmem dir hdir
      rw [h.dirs] at hmem ⊢
      obtain ⟨entry', hmem, hancestor | ⟨-, heq⟩⟩ := hmem
      · exact ⟨entry', hmem, .inl (ancestors_subset hancestor hdir)⟩
      · exact absurd heq (hjoins.path_ne hmem)
    obtain ⟨staging, hmade, hfiles, hdirs⟩ :=
      makeDirectory_eq entry.path_ne_nil hnew habove hclosed
    have htotal : state.extractedBytes = contentBytes (entries ++ [entry]) := by
      rw [contentBytes_concat, hkind, if_pos rfl, Nat.add_zero, h.bytes]
    refine ⟨_, by rw [if_pos rfl, hmade], htotal ▸ h.withEntry hjoins ?_ ?_⟩
    · rw [hfiles, h.files, List.filter_append]
      simp [hkind]
    · intro dir
      rw [hdirs, h.dirs, hasDir_concat, hkind]
      simp
  | false =>
    have hread : (streams.reads entry).flatten = entry.content := streams.complete entry
    rw [hkind, if_neg Bool.false_ne_true] at hbytes
    have hnodir : entry.path ∉ state.staging.dirs := by
      rw [h.dirs]
      exact hjoins.not_hasDir hkind
    obtain ⟨opened, staging, hopen, hwrite, hfiles, hdirs⟩ :=
      openTarget_eq entry.content hnew ⟨entry.path_ne_nil, hnodir, habove⟩
    have hcopy : copyEntry worker state.extractedBytes [] (streams.reads entry) =
        .ok (contentBytes (entries ++ [entry]), entry.content) := by
      rw [copyEntry_eq_ok_iff (by rw [h.bytes]; omega), hread, h.bytes, contentBytes_concat, hkind]
      exact ⟨hbytes, rfl⟩
    have hunpacked : Unpacked
        (state.withEntry entry (contentBytes (entries ++ [entry])) staging)
        (entries ++ [entry]) := by
      refine h.withEntry hjoins ?_ ?_
      · rw [hfiles, h.files, List.filter_append, List.map_append]
        simp [hkind]
      · intro dir
        rw [hdirs, h.dirs, hasDir_concat, hkind]
        simp
    refine ⟨_, ?_, hunpacked⟩
    simp only [if_neg Bool.false_ne_true, bind, Except.bind, hopen, hcopy, hwrite]

/-- An entry that is extracted joins the others. -/
theorem Unpacked.joins_of_extractEntry (h : Unpacked state entries)
    (hbytes : contentBytes entries ≤ worker.maxExtractedBytes) {streams : Streams}
    {root : List Str} (hroot : root ≠ []) {state' : Extraction}
    (hok : extractEntry worker streams root state entry = .ok state') :
    Joins worker entries entry := by
  have hpasses := passes_of_extractEntry hok
  refine h.joins hpasses ?_
  rw [contentBytes_concat]
  cases hkind : entry.isDirectory with
  | true => rwa [if_pos rfl, Nat.add_zero]
  | false =>
    rw [extractEntry_eq worker streams hroot hpasses, hkind, if_neg Bool.false_ne_true] at hok
    obtain ⟨opened, -, hok⟩ := Except.bind_eq_ok.mp hok
    obtain ⟨copied, hcopy, -⟩ := Except.bind_eq_ok.mp hok
    rw [copyEntry_eq_ok_iff (by rw [h.bytes]; exact hbytes), streams.complete, h.bytes] at hcopy
    rw [if_neg Bool.false_ne_true]
    exact hcopy.1

/-- The loop ends well on the unpackable archives. -/
theorem Unpacked.run (streams : Streams) {root : List Str} (hroot : root ≠ [])
    {later : List Entry} (h : Unpacked state entries) (hentries : Unpackable worker entries) :
    (Unpackable worker (entries ++ later) → ∃ state',
      later.foldlM (extractEntry worker streams root) state = .ok state' ∧
        Unpacked state' (entries ++ later)) ∧
    ∀ state', later.foldlM (extractEntry worker streams root) state = .ok state' →
      Unpackable worker (entries ++ later) ∧ Unpacked state' (entries ++ later) := by
  induction later generalizing state entries with
  | nil =>
    rw [List.append_nil]
    refine ⟨fun _ => ⟨state, rfl, h⟩, ?_⟩
    intro state' hrun
    obtain rfl := Except.ok.inj hrun
    exact ⟨hentries, h⟩
  | cons entry later ih =>
    rw [List.append_cons, List.foldlM_cons]
    constructor
    · intro hall
      have hinit : Unpackable worker (entries ++ [entry]) := hall.of_append
      obtain ⟨-, hjoins⟩ := unpackable_concat.mp hinit
      obtain ⟨next, hnext, hunpacked⟩ := h.step hjoins streams hroot
      rw [hnext]
      exact (ih hunpacked hinit).1 hall
    · intro state' hrun
      obtain ⟨next, hnext, hrun⟩ := Except.bind_eq_ok.mp hrun
      have hjoins := h.joins_of_extractEntry hentries.bytes_le hroot hnext
      obtain ⟨next', hnext', hunpacked⟩ := h.step hjoins streams hroot
      obtain rfl : next' = next := Except.ok.inj (hnext'.symm.trans hnext)
      exact (ih hunpacked (unpackable_concat.mpr ⟨hentries, hjoins⟩)).2 state' hrun

end Unpacked

/-! ### The archive -/

section Archive

variable (worker : PushFilesWorker) (streams : Streams) (work : List Str) {entries : List Entry}

/-- An unpackable archive is extracted. -/
theorem validateAndExtract_ok (hne : entries ≠ []) (h : Unpackable worker entries) :
    ∃ staging, worker.validateAndExtract streams work entries = .ok staging := by
  have hinit : Unpackable worker [] := h.of_append
  obtain ⟨state, hrun, hstate⟩ :=
    (Unpacked.empty.run streams (List.concat_ne_nil (ofString "staging") work) hinit).1 h
  have hcount : state.entryCount ≠ 0 := by
    rw [hstate.count]
    exact (List.length_pos_iff.mpr hne).ne'
  refine ⟨state.staging, ?_⟩
  simp only [PushFilesWorker.validateAndExtract, bind, Except.bind, hrun]
  exact if_neg hcount

/-- What is extracted is an unpackable archive, and the staging directory holds its entries. -/
theorem validateAndExtract_spec {worker : PushFilesWorker} {streams : Streams} {work : List Str}
    {staging : Tree} (h : worker.validateAndExtract streams work entries = .ok staging) :
    entries ≠ [] ∧ Unpackable worker entries ∧
      staging.files = ((entries.filter fun entry => !entry.isDirectory).map
        fun entry => (entry.path, entry.content)) ∧
      ∀ dir, dir ∈ staging.dirs ↔ HasDir entries dir := by
  have hinit : Unpackable worker [] :=
    ⟨Nat.zero_le _, Nat.zero_le _, List.forall_mem_nil _, List.nodup_nil, List.forall_mem_nil _⟩
  obtain ⟨state, hrun, hstaging⟩ := Except.bind_eq_ok.mp h
  obtain ⟨hentries, hstate⟩ :=
    (Unpacked.empty.run streams (List.concat_ne_nil (ofString "staging") work) hinit).2 state hrun
  rw [List.nil_append] at hentries hstate
  split_ifs at hstaging with hcount
  obtain rfl := Except.ok.inj hstaging
  refine ⟨?_, hentries, hstate.files, hstate.dirs⟩
  rintro rfl
  exact hcount hstate.count

end Archive

/-- An archive is accepted when it is not empty, its files fit into the limits, and its names are
valid, distinct, and no file on the way to another entry; so whatever the order of the entries.
The staging directory then holds the files, each below it, and the directories. -/
theorem validateAndExtract_accepts_iff (worker : PushFilesWorker) (streams : Streams)
    (work : List Str) (entries : List Entry) :
    ((∃ staging, worker.validateAndExtract streams work entries = .ok staging) ↔
      entries ≠ [] ∧ Unpackable worker entries) ∧
    (∀ entries', entries'.Perm entries → ∀ streams',
      ((∃ staging, worker.validateAndExtract streams' work entries' = .ok staging) ↔
        ∃ staging, worker.validateAndExtract streams work entries = .ok staging)) ∧
    ∀ staging, worker.validateAndExtract streams work entries = .ok staging →
      (∀ path content, staging.read path = some content ↔ ∃ file ∈ entries,
        file.isDirectory = false ∧ file.path = path ∧ file.content = content) ∧
      (∀ dir, dir ∈ staging.dirs ↔ HasDir entries dir) ∧
      ∀ entry ∈ entries, entry.path ≠ [] ∧
        canonicalTarget (work ++ [ofString "staging"]) entry.relative =
          work ++ [ofString "staging"] ++ entry.path := by
  have hiff : ∀ streams entries,
      (∃ staging, worker.validateAndExtract streams work entries = .ok staging) ↔
        entries ≠ [] ∧ Unpackable worker entries := by
    intro streams entries
    constructor
    · rintro ⟨staging, hok⟩
      obtain ⟨hne, hentries, -⟩ := validateAndExtract_spec hok
      exact ⟨hne, hentries⟩
    · rintro ⟨hne, hentries⟩
      exact validateAndExtract_ok worker streams work hne hentries
  refine ⟨hiff streams entries, ?_, ?_⟩
  · intro entries' hperm streams'
    rw [hiff, hiff]
    have hne : entries' ≠ [] ↔ entries ≠ [] := by
      rw [Ne, Ne, ← List.length_eq_zero_iff, hperm.length_eq, List.length_eq_zero_iff]
    exact and_congr hne ⟨fun h => h.perm hperm.symm, fun h => h.perm hperm⟩
  · intro staging hok
    obtain ⟨-, hentries, hfiles, hdirs⟩ := validateAndExtract_spec hok
    refine ⟨?_, hdirs, fun entry hentry => ⟨entry.path_ne_nil, ?_⟩⟩
    · intro path content
      rw [FileTree.read_eq_some_iff, hfiles, List.mem_map]
      simp only [List.mem_filter, Bool.not_eq_true', Prod.mk.injEq, and_assoc]
    · exact canonicalTarget_eq _ (hentries.names entry hentry).spec.2

/-- Each entry in one read. -/
def singleReads : Streams where
  reads entry := [entry.content]
  complete entry := by simp

/-- A file with a backslash in its name, below the directory that another entry names. -/
def mixedArchive : List Entry := [⟨ofString "a\\b.txt", [1]⟩, ⟨ofString "a//", []⟩]

theorem validateAndExtract_accepts_mixed :
    ∃ staging, PushFilesWorker.validateAndExtract {} singleReads [ofString "work"] mixedArchive =
        .ok staging ∧
      ∀ path content, staging.read path = some content ↔ ∃ file ∈ mixedArchive,
        file.isDirectory = false ∧ file.path = path ∧ file.content = content := by
  obtain ⟨staging, hok⟩ := Except.exists_of_isOk (x := PushFilesWorker.validateAndExtract {}
    singleReads [ofString "work"] mixedArchive) (by decide +kernel)
  exact ⟨staging, hok, ((validateAndExtract_accepts_iff _ _ _ _).2.2 staging hok).1⟩

/-- A directory with more data than may be extracted. -/
def directoryWithData : List Entry := [⟨ofString "d/", [1, 2]⟩]

/-- The data of a directory is not counted. -/
theorem directory_data_not_counted :
    (∃ staging, PushFilesWorker.validateAndExtract ⟨1, by decide⟩ singleReads [ofString "work"]
        directoryWithData = .ok staging) ∧
      ¬ (directoryWithData.map fun entry => entry.content.length).sum ≤ 1 :=
  ⟨Except.exists_of_isOk (by decide +kernel), by decide⟩

end StylyMdm.Files
