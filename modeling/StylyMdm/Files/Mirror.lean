import StylyMdm.Files.Sync

/-!
# What a synchronisation leaves

`apply_spec` says what `BundleSync.apply` leaves on any file system of `StylyMdm.Library.Disk`, and
`apply_isOk_iff` when it ends normally. From them:

* on a file system with exact names, a sync leaves the files of the bundle and no others, and a push
  leaves the files of the bundle and the others as they were, exactly when nothing is in the way of
  a staged file (`mirror_iff`). A directory with something in it where a file is staged, or a file
  where a directory is needed, makes `apply` fail midway, although a sync is about to delete it;
* on a file system that folds names, a sync keeps what it has copied exactly when every directory
  on the way to a staged file that is there already is spelled as in the bundle
  (`keeps_staged_iff`). Otherwise the file is written below the spelling of the destination, which
  is not a staged path, and is deleted again.

Both conditions are on the bundle and the destination before the call (`Clear`, `SameSpelling`), and
both results are about every order in which directories are listed. The examples beside them have
one file each: one is staged where a directory is, the other below a directory in another letter
case.
-/

namespace StylyMdm.Files

open Disk

section Spec

variable {α β : Type*} [DecidableEq α] {fold : α → α} {order : Listing α}
  {staging dest t : Disk fold β} {deleteExtras : Bool} {r : SyncResult}

/-- Nothing is in the way of a staged file. -/
def Clear (staging dest : Disk fold β) : Prop :=
  ∀ path ∈ filePaths staging, Unobstructed dest path

theorem forall_stagedContents_iff :
    (∀ file ∈ stagedContents order staging, Unobstructed dest file.1) ↔ Clear staging dest := by
  constructor
  · intro h path hpath
    obtain ⟨content, hmem⟩ := mem_filePaths.mp hpath
    exact h _ (mem_stagedContents.mpr hmem)
  · intro h file hmem
    exact h file.1 (mem_filePaths.mpr ⟨file.2, mem_stagedContents.mp hmem⟩)

/-- The first loop over the staged files. -/
theorem copyFiles_spec (order : Listing α) (staging dest : Disk fold β) :
    ((∃ r, copyFiles dest (stagedContents order staging) = .ok r) ↔ Clear staging dest) ∧
    ∀ r, copyFiles dest (stagedContents order staging) = .ok r →
      Copied dest r.1 (stagedContents order staging) ∧
      r.2.2 = ((filePaths staging).filter dest.isFile).length ∧
      r.2.1 + r.2.2 = (filePaths staging).length := by
  have hstaged : StagedAs staging ([] ++ stagedContents order staging) :=
    fun _ hmem => mem_stagedContents.mp hmem
  have hperm : ((stagedContents order staging).map Prod.fst).Perm (filePaths staging) :=
    stagedContents_perm
  obtain ⟨hiff, hspec⟩ :=
    @copyLoop_spec _ _ _ _ staging dest dest [] _ 0 0 Copied.nil hstaged nodup_stagedContents
  refine ⟨hiff.trans forall_stagedContents_iff, fun r hr => ?_⟩
  obtain ⟨hcopied, hupdated, hsum⟩ := hspec r hr
  refine ⟨hcopied, ?_, ?_⟩
  · rw [hupdated, ← (hperm.filter dest.isFile).length_eq, List.filter_map, List.length_map,
      Nat.zero_add]
    rfl
  · rw [hsum, ← hperm.length_eq, List.length_map, Nat.zero_add]

/-- **When `apply` ends normally.** -/
theorem apply_isOk_iff (order : Listing α) (staging dest : Disk fold β) (deleteExtras : Bool) :
    (∃ t r, apply order staging dest deleteExtras = .ok (t, r)) ↔ Clear staging dest := by
  rw [← (copyFiles_spec order staging dest).1]
  constructor
  · rintro ⟨t, r, h⟩
    rcases hcopied : copyFiles dest (stagedContents order staging) with error | copied
    · exact absurd h (by simp [apply, hcopied, bind, Except.bind])
    · exact ⟨copied, rfl⟩
  · rintro ⟨⟨copied, added, updated⟩, hcopied⟩
    simp only [apply, hcopied, bind, Except.bind]
    split
    · exact ⟨_, _, rfl⟩
    · exact ⟨_, _, rfl⟩

/-- What `apply` leaves, after the files are copied to `copied`. -/
structure Applied (staging dest copied t : Disk fold β) (deleteExtras : Bool) (r : SyncResult) :
    Prop where
  updated : r.updated = ((filePaths staging).filter dest.isFile).length
  counted : r.added + r.updated = (filePaths staging).length
  kept : deleteExtras = false → t = copied ∧ r.deleted = 0
  pruned : deleteExtras = true → ∀ q stored content,
    t.find q = some (stored, .file content) ↔
      copied.find q = some (stored, .file content) ∧ stored ∈ filePaths staging
  deleted : deleteExtras = true →
    r.deleted = ((filePaths copied).filter fun path => path ∉ filePaths staging).length

/-- The last loop over the entries of the destination. -/
theorem prune_spec (order : Listing α) (staging copied : Disk fold β) (dirs : List (List α)) :
    (∀ q stored content,
      ((destinationEntriesBottomUp order copied).foldl (pruneEntry (stagedFiles order staging) dirs)
        (copied, 0)).1.find q = some (stored, .file content) ↔
      copied.find q = some (stored, .file content) ∧ stored ∈ filePaths staging) ∧
    ((destinationEntriesBottomUp order copied).foldl (pruneEntry (stagedFiles order staging) dirs)
      (copied, 0)).2 =
      ((filePaths copied).filter fun path => path ∉ filePaths staging).length := by
  have hinj : ∀ {path path'}, path ∈ destinationEntriesBottomUp order copied →
      path' ∈ destinationEntriesBottomUp order copied → path.map fold = path'.map fold →
      path = path' := by
    intro path path' hpath hpath' hfold
    obtain ⟨node, hmem, -⟩ := entry_of_mem_paths (mem_destinationEntriesBottomUp.mp hpath)
    obtain ⟨node', hmem', -⟩ := entry_of_mem_paths (mem_destinationEntriesBottomUp.mp hpath')
    exact congrArg Prod.fst (eq_of_map_fold hmem hmem' hfold)
  have hnodup : ((destinationEntriesBottomUp order copied).map (List.map fold)).Nodup :=
    nodup_visit.map_on fun _ hpath _ hpath' => hinj hpath hpath'
  obtain ⟨hfind, hcount⟩ :=
    @pruneLoop_spec _ _ _ _ copied (stagedFiles order staging) dirs _ 0 hnodup
  constructor
  · intro q stored content
    rw [hfind]
    refine and_congr_right fun hfile => ?_
    obtain ⟨hmem, hfold⟩ := find_eq_some_iff.mp hfile
    have hlisted : stored ∈ destinationEntriesBottomUp order copied :=
      mem_destinationEntriesBottomUp.mpr (List.mem_map.mpr ⟨_, hmem, rfl⟩)
    have hmemFiles : stored ∈ stagedFiles order staging ↔ stored ∈ filePaths staging :=
      mem_stagedFiles
    rw [← hmemFiles]
    constructor
    · intro hall
      by_contra hnot
      exact hall stored hlisted ⟨hfold.symm, hnot⟩
    · rintro hstaged entry hentry ⟨hsame, hnot⟩
      rw [hinj hentry hlisted (hsame.symm.trans hfold.symm)] at hnot
      exact hnot hstaged
  · rw [hcount, Nat.zero_add]
    refine List.Perm.length_eq ((List.perm_ext_iff_of_nodup (nodup_visit.filter _)
      (nodup_filePaths.filter _)).mpr fun path => ?_)
    rw [List.mem_filter, List.mem_filter, Bool.and_eq_true, decide_eq_true_iff, decide_eq_true_iff,
      mem_stagedFiles, ← and_assoc]
    refine and_congr_left fun _ => ?_
    rw [← destinationEntriesBottomUp, mem_destinationEntriesBottomUp, mem_filePaths]
    constructor
    · rintro ⟨hpath, hfile⟩
      obtain ⟨node, hmem, hself⟩ := entry_of_mem_paths hpath
      obtain ⟨stored, content, hstored⟩ := isFile_iff.mp hfile
      rw [hself, Option.some.injEq, Prod.mk.injEq] at hstored
      exact ⟨content, hstored.2 ▸ hmem⟩
    · rintro ⟨content, hmem⟩
      exact ⟨List.mem_map.mpr ⟨_, hmem, rfl⟩, isFile_iff.mpr ⟨path, content, find_of_mem hmem⟩⟩

/-- **What `apply` leaves.** -/
theorem apply_spec (h : apply order staging dest deleteExtras = .ok (t, r)) :
    ∃ copied, Copied dest copied (stagedContents order staging) ∧
      Applied staging dest copied t deleteExtras r := by
  rcases hcopied : copyFiles dest (stagedContents order staging) with
    error | ⟨copied, added, updated⟩
  · exact absurd h (by simp [apply, hcopied, bind, Except.bind])
  · obtain ⟨hspec, hupdated, hsum⟩ := (copyFiles_spec order staging dest).2 _ hcopied
    refine ⟨copied, hspec, ?_⟩
    simp only [apply, hcopied, bind, Except.bind] at h
    obtain ⟨hfind, hcount⟩ := prune_spec order staging copied (stagedDirectories order staging)
    cases deleteExtras with
    | false =>
      cases h
      exact ⟨hupdated, hsum, fun _ => ⟨rfl, rfl⟩, fun h => absurd h (by simp),
        fun h => absurd h (by simp)⟩
    | true =>
      cases h
      exact ⟨hupdated, hsum, fun h => absurd h (by simp), fun _ => hfind, fun _ => hcount⟩

/-- The staged files have their content once they are copied. -/
theorem Copied.read_staged {copied : Disk fold β} {path : List α} {content : β}
    (h : Copied dest copied (stagedContents order staging))
    (hread : staging.read path = some content) : copied.read path = some content := by
  obtain ⟨stored, hfind⟩ := read_eq_some_iff.mp hread
  obtain ⟨hmem, hfold⟩ := find_eq_some_iff.mp hfind
  obtain hnil | ⟨above, name, rfl⟩ := List.eq_nil_or_concat stored
  · exact absurd hnil (staging.parent _ hmem).1
  · rw [List.concat_eq_append] at hmem hfold
    refine read_eq_some_iff.mpr ⟨dest.spell above ++ [name], ?_⟩
    rw [← find_congr hfold]
    exact h.file above name content (mem_stagedContents.mpr hmem)

/-- The other files are as they were. -/
theorem Copied.read_other {copied : Disk fold β} {path : List α}
    (h : Copied dest copied (stagedContents order staging)) (hother : ¬ staging.isFile path) :
    copied.read path = dest.read path := by
  by_cases hframe : ∀ file ∈ stagedContents order staging, ∀ r, r ≠ [] → r <+: file.1 →
      path.map fold ≠ r.map fold
  · rw [Disk.read, Disk.read, h.frame path hframe]
  · push Not at hframe
    obtain ⟨file, hfile, r, hr, hpre, hfold⟩ := hframe
    have hne : r ≠ file.1 := by
      rintro rfl
      have hstaged := find_of_mem (mem_stagedContents.mp hfile)
      rw [← find_congr hfold] at hstaged
      exact hother (isFile_iff.mpr ⟨_, _, hstaged⟩)
    -- a directory that is needed: one now, and no file before
    have hdir := h.dirs file hfile r hr hpre hne
    have hnone : dest.read path = none := by
      rw [Option.eq_none_iff_forall_ne_some]
      intro content hread
      obtain ⟨stored, hfind⟩ := read_eq_some_iff.mp hread
      rw [find_congr hfold] at hfind
      exact (h.clear file hfile).above r hr hpre hne (isFile_iff.mpr ⟨stored, content, hfind⟩)
    rw [hnone, Disk.read, find_congr hfold, hdir]

end Spec

/-! ### Exact names -/

section Exact

variable {α β : Type*} [DecidableEq α]

/-- What a sync should leave: the files of the bundle and no others, and counts that say what
happened to each file. -/
structure Mirrored (staging dest t : Disk (id : α → α) β) (r : SyncResult) : Prop where
  contents : ∀ path, t.read path = staging.read path
  counted : r.added + r.updated = (filePaths staging).length
  updated : r.updated = ((filePaths staging).filter dest.isFile).length
  deleted : r.deleted = ((filePaths dest).filter fun path => !staging.isFile path).length

/-- What a push should leave: the files of the bundle, and the others as they were. -/
structure Merged (staging dest t : Disk (id : α → α) β) (r : SyncResult) : Prop where
  staged : ∀ path content, staging.read path = some content → t.read path = some content
  others : ∀ path, ¬ staging.isFile path → t.read path = dest.read path
  counted : r.added + r.updated = (filePaths staging).length
  updated : r.updated = ((filePaths staging).filter dest.isFile).length
  deleted : r.deleted = 0

variable {t : Disk (id : α → α) β} {path : List α}

theorem fst_of_find {entry : List α × Node β} (h : t.find path = some entry) : entry.1 = path := by
  have hfold := (find_eq_some_iff.mp h).2
  rwa [List.map_id, List.map_id] at hfold

theorem mem_filePaths_iff_isFile : path ∈ filePaths t ↔ t.isFile path := by
  rw [mem_filePaths, isFile_iff]
  constructor
  · rintro ⟨content, hmem⟩
    exact ⟨path, content, find_of_mem hmem⟩
  · rintro ⟨stored, content, hfind⟩
    obtain rfl : stored = path := fst_of_find hfind
    exact ⟨content, (find_eq_some_iff.mp hfind).1⟩

theorem isFile_iff_isSome_read : t.isFile path ↔ (t.read path).isSome := by
  rw [isFile_iff, Option.isSome_iff_exists]
  simp only [read_eq_some_iff]
  exact exists_comm

/-- A sync that ends normally leaves the files of the bundle and no others. -/
theorem read_of_apply {order : Listing α} {staging dest : Disk (id : α → α) β} {r : SyncResult}
    (h : apply order staging dest true = .ok (t, r)) (path : List α) :
    t.read path = staging.read path := by
  obtain ⟨copied, hcopied, happlied⟩ := apply_spec h
  refine Option.ext fun content => ?_
  rw [read_eq_some_iff]
  simp only [happlied.pruned rfl]
  constructor
  · rintro ⟨stored, hfind, hstaged⟩
    obtain rfl : stored = path := fst_of_find hfind
    obtain ⟨content', hread⟩ := Option.isSome_iff_exists.mp
      (isFile_iff_isSome_read.mp (mem_filePaths_iff_isFile.mp hstaged))
    have hsame := hcopied.read_staged hread
    rw [read_eq_some_iff.mpr ⟨stored, hfind⟩] at hsame
    rw [hread, ← hsame]
  · intro hread
    obtain ⟨stored, hfind⟩ := read_eq_some_iff.mp (hcopied.read_staged hread)
    obtain rfl : stored = path := fst_of_find hfind
    refine ⟨stored, hfind, mem_filePaths_iff_isFile.mpr (isFile_iff_isSome_read.mpr ?_)⟩
    rw [hread]
    rfl

/-- **A sync mirrors the bundle, and a push adds it, exactly when nothing is in the way of a staged
file.** -/
theorem mirror_iff (order : Listing α) (staging dest : Disk (id : α → α) β) :
    ((∃ t r, apply order staging dest true = .ok (t, r) ∧ Mirrored staging dest t r) ↔
      Clear staging dest) ∧
    ((∃ t r, apply order staging dest false = .ok (t, r) ∧ Merged staging dest t r) ↔
      Clear staging dest) := by
  constructor
  · refine ⟨fun ⟨t, r, h, _⟩ => (apply_isOk_iff order staging dest true).mp ⟨t, r, h⟩,
      fun hclear => ?_⟩
    obtain ⟨t, r, h⟩ := (apply_isOk_iff order staging dest true).mpr hclear
    obtain ⟨copied, hcopied, happlied⟩ := apply_spec h
    refine ⟨t, r, h, read_of_apply h, happlied.counted, happlied.updated, ?_⟩
    rw [happlied.deleted rfl]
    refine List.Perm.length_eq ((List.perm_ext_iff_of_nodup (nodup_filePaths.filter _)
      (nodup_filePaths.filter _)).mpr fun path => ?_)
    rw [List.mem_filter, List.mem_filter, decide_eq_true_iff, Bool.not_eq_true',
      mem_filePaths_iff_isFile, mem_filePaths_iff_isFile, mem_filePaths_iff_isFile,
      Bool.eq_false_iff]
    refine and_congr_left fun hother => ?_
    rw [isFile_iff_isSome_read, isFile_iff_isSome_read, hcopied.read_other hother]
  · refine ⟨fun ⟨t, r, h, _⟩ => (apply_isOk_iff order staging dest false).mp ⟨t, r, h⟩,
      fun hclear => ?_⟩
    obtain ⟨t, r, h⟩ := (apply_isOk_iff order staging dest false).mpr hclear
    obtain ⟨copied, hcopied, happlied⟩ := apply_spec h
    obtain ⟨rfl, hdeleted⟩ := happlied.kept rfl
    exact ⟨t, r, h, fun path content => hcopied.read_staged, fun path => hcopied.read_other,
      happlied.counted, happlied.updated, hdeleted⟩

/-- Directories in the order they are stored. -/
private def asStored {α : Type*} : Listing α := ⟨id, fun _ => List.Perm.refl _⟩

/-- A bundle with the file `a`. -/
private def fileBundle : Disk (id : String → String) Nat where
  entries := [(["a"], .file 1)]
  nodup := by decide
  parent := by decide

/-- A destination with a directory `a` that is not empty. -/
private def directoryThere : Disk (id : String → String) Nat where
  entries := [(["a"], .dir), (["a", "b"], .file 2)]
  nodup := by decide
  parent := by decide

/-- The sync of a file to the path of a directory with something in it fails. -/
theorem file_over_directory_fails :
    ¬ ∀ (order : Listing String) (staging dest : Disk (id : String → String) Nat),
      filePaths staging ≠ [] →
      ∃ t r, apply order staging dest true = .ok (t, r) ∧ Mirrored staging dest t r := by
  intro h
  obtain ⟨t, r, happly, -⟩ := h asStored fileBundle directoryThere (by decide)
  have hclear := (apply_isOk_iff asStored fileBundle directoryThere true).mp ⟨t, r, happly⟩
  have htarget := (hclear ["a"] (by decide)).target ["a"] (by decide) "b"
  exact absurd htarget (by decide)

end Exact

/-! ### Folded names -/

section Folded

variable {α β : Type*} [DecidableEq α] {fold : α → α}

/-- Every directory on the way to a staged file that the destination has is stored there as the
bundle spells it. -/
def SameSpelling (staging dest : Disk fold β) : Prop :=
  ∀ path ∈ filePaths staging, ∀ q, q ≠ [] → q <+: path → q ≠ path →
    ∀ entry, dest.find q = some entry → entry.1 = q

theorem spell_above_eq_iff {dest : Disk fold β} {above : List α} {name : α} :
    dest.spell above = above ↔ ∀ q, q ≠ [] → q <+: above ++ [name] → q ≠ above ++ [name] →
      ∀ entry, dest.find q = some entry → entry.1 = q := by
  rw [spell_eq_self_iff]
  constructor
  · intro h q hq hpre hne
    exact h q hq ((List.prefix_concat_iff.mp hpre).resolve_left hne)
  · intro h q hq hpre
    refine h q hq (hpre.trans (List.prefix_append _ _)) ?_
    rintro rfl
    exact absurd hpre.length_le (by simp)

/-- **A sync keeps what it has copied exactly when the destination spells the directories as the
bundle does.** Staging and destination are on a file system that folds names, so no two staged paths
are the same after folding. -/
theorem keeps_staged_iff (order : Listing α) (staging dest : Disk fold β) :
    (∀ t r, apply order staging dest true = .ok (t, r) →
      ∀ path content, (path, Node.file content) ∈ staging.entries →
        t.read path = some content) ↔
    (Clear staging dest → SameSpelling staging dest) := by
  -- one staged file after a sync that ends normally
  have hone : ∀ t r, apply order staging dest true = .ok (t, r) → ∀ above name content,
      (above ++ [name], Node.file content) ∈ staging.entries →
      (t.read (above ++ [name]) = some content ↔ dest.spell above = above) := by
    intro t r h above name content hmem
    obtain ⟨copied, hcopied, happlied⟩ := apply_spec h
    have hfind := hcopied.file above name content (mem_stagedContents.mpr hmem)
    rw [read_eq_some_iff]
    simp only [happlied.pruned rfl, hfind, Option.some.injEq, Prod.mk.injEq, and_true]
    constructor
    · rintro ⟨stored, rfl, hstaged⟩
      obtain ⟨content', hmem'⟩ := mem_filePaths.mp hstaged
      have hfold : (dest.spell above ++ [name]).map fold = (above ++ [name]).map fold := by
        rw [List.map_append, map_spell, List.map_append]
      have hsame := congrArg Prod.fst (eq_of_map_fold hmem' hmem hfold)
      exact List.append_cancel_right hsame
    · intro hspell
      exact ⟨_, rfl, by rw [hspell]; exact mem_filePaths.mpr ⟨content, hmem⟩⟩
  have hpath : ∀ {path content}, (path, Node.file content) ∈ staging.entries →
      ∃ above name, path = above ++ [name] := by
    intro path content hmem
    obtain hnil | ⟨above, name, hconcat⟩ := List.eq_nil_or_concat path
    · exact absurd hnil (staging.parent _ hmem).1
    · exact ⟨above, name, by rw [hconcat, List.concat_eq_append]⟩
  constructor
  · intro h hclear path hstaged
    obtain ⟨content, hmem⟩ := mem_filePaths.mp hstaged
    obtain ⟨above, name, rfl⟩ := hpath hmem
    obtain ⟨t, r, happly⟩ := (apply_isOk_iff order staging dest true).mpr hclear
    exact spell_above_eq_iff.mp ((hone t r happly above name content hmem).mp
      (h t r happly _ content hmem))
  · intro h t r happly path content hmem
    have hclear := (apply_isOk_iff order staging dest true).mp ⟨t, r, happly⟩
    obtain ⟨above, name, rfl⟩ := hpath hmem
    exact (hone t r happly above name content hmem).mpr
      (spell_above_eq_iff.mpr (h hclear _ (mem_filePaths.mpr ⟨content, hmem⟩)))

/-- The folding of case. -/
private def lowered (name : List Char) : List Char := name.map Char.toLower

/-- A bundle with the file `data/a`. -/
private def lowerBundle : Disk lowered Nat where
  entries := [(["data".toList], .dir), (["data".toList, "a".toList], .file 1)]
  nodup := by decide
  parent := by decide

/-- A destination with an empty directory `Data`. -/
private def upperThere : Disk lowered Nat where
  entries := [(["Data".toList], .dir)]
  nodup := by decide
  parent := by decide

private theorem lower_run : (apply asStored lowerBundle upperThere true).toOption.map (fun result =>
    (result.1.read ["data".toList, "a".toList], result.2)) = some (none, ⟨1, 0, 1⟩) := by
  decide +kernel

/-- The file is written to `Data/a` and deleted again. -/
theorem sync_deletes_staged :
    ¬ ∀ (order : Listing (List Char)) (staging dest : Disk lowered Nat) t r,
      apply order staging dest true = .ok (t, r) →
      ∀ path content, (path, Node.file content) ∈ staging.entries →
        t.read path = some content := by
  intro h
  obtain ⟨⟨t, r⟩, happly, hresult⟩ := Option.map_eq_some_iff.mp lower_run
  have hok : apply asStored lowerBundle upperThere true = .ok (t, r) := by
    rcases hval : apply asStored lowerBundle upperThere true with error | value
    · rw [hval] at happly
      exact absurd happly (by simp [Except.toOption])
    · rw [hval] at happly
      exact congrArg Except.ok (Option.some.inj happly)
  have hkept := h asStored lowerBundle upperThere t r hok ["data".toList, "a".toList] 1 (by decide)
  rw [(Prod.mk.inj hresult).1] at hkept
  exact absurd hkept (by simp)

end Folded

end StylyMdm.Files
