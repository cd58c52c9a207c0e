import StylyMdm.Library.Disk
import StylyMdm.Library.FileTree

/-!
# Applying a bundle to a directory of the device

`BundleSync.apply` of the client. It copies the staged files to the destination, and when extras are
to be deleted it then removes every file whose listed path is not a staged one, and the directories
that are empty and not staged.

The trees are those of `StylyMdm.Library.Disk`. There are no symbolic links in them, so the checks
for links pass and are left out; the destination is a directory that is there. A directory is listed
in an order that the platform leaves open.

The module has the definitions and what the two loops need, loop by loop:

* a walk visits every entry once, whatever the order of the listings, and in the walk of the pruning
  a directory comes after what is below it (`mem_destinationEntriesBottomUp`, `nodup_visit`);
* one copied file (`copyFile_spec`): its directories are made, what stood there is deleted if it can
  be, and the rest of the disk is as it was (`CopiedFile`);
* all copied files (`copyLoop_spec`), with the invariant `Copied` over the files that are done;
* the pruning (`pruneLoop_spec`), which deletes an entry exactly when it is not a staged one and
  nothing is left below it.
-/

namespace StylyMdm.Files

open Disk

/-! ### Walking a tree -/

/-- The order in which a file system lists the entries of a directory. -/
structure Listing (α : Type*) where
  arrange : List (List α) → List (List α)
  perm : ∀ paths, (arrange paths).Perm paths

section Definitions

variable {α β : Type*} [DecidableEq α] {fold : α → α}

/-- `File.listFiles`. -/
def listFiles (order : Listing α) (t : Disk fold β) (dir : List α) : List (List α) :=
  order.arrange (t.children dir)

/-- The length of the longest path of the tree. -/
def depth (t : Disk fold β) : Nat := (t.entries.map fun entry => entry.1.length).foldr max 0

/-- `visit` of `destinationEntriesBottomUp`, down to `n` levels below the directory. -/
def visit (order : Listing α) (t : Disk fold β) : Nat → List α → List (List α)
  | 0, _ => []
  | n + 1, dir => (listFiles order t dir).flatMap fun child =>
      (if t.isDirectory child then visit order t n child else []) ++ [child]

/-- `destinationEntriesBottomUp`. -/
def destinationEntriesBottomUp (order : Listing α) (t : Disk fold β) : List (List α) :=
  visit order t (depth t) []

/-- `File.walkTopDown`, down to `n` levels below the directory. -/
def walkBelow (order : Listing α) (t : Disk fold β) : Nat → List α → List (List α)
  | 0, _ => []
  | n + 1, dir => (listFiles order t dir).flatMap fun child =>
      child :: (if t.isDirectory child then walkBelow order t n child else [])

/-- `File.walkTopDown`, without the directory itself. -/
def walkTopDown (order : Listing α) (t : Disk fold β) : List (List α) :=
  walkBelow order t (depth t) []

/-! ### The synchronisation -/

/-- `SyncResult`. -/
structure SyncResult where
  added : Nat
  updated : Nat
  deleted : Nat
deriving DecidableEq, Repr

/-- The exceptions of `apply`: its own, and those of `File.copyTo`. -/
inductive ApplyError
  | createDirectory
  | fileAlreadyExists
  | fileNotFound
deriving DecidableEq, Repr

/-- `!parent.exists() && !parent.mkdirs()`. -/
def makeParent (t : Disk fold β) (relative : List α) : Option (Disk fold β) :=
  if t.present relative.dropLast then some t else t.mkdirs relative.dropLast

/-- The head of `File.copyTo` with `overwrite`: what is at the target is deleted. -/
def clearTarget (t : Disk fold β) (relative : List α) : Option (Disk fold β) :=
  if (t.find relative).isSome then t.delete relative else some t

/-- One staged file is copied. The result says whether the target was a file before. -/
def copyFile (t : Disk fold β) (relative : List α) (content : β) :
    Except ApplyError (Disk fold β × Bool) :=
  let existed := t.isFile relative
  match makeParent t relative with
  | none => .error .createDirectory
  | some t =>
    match clearTarget t relative with
    | none => .error .fileAlreadyExists
    | some t =>
      match t.create relative content with
      | none => .error .fileNotFound
      | some t => .ok (t, existed)

/-- The body of the first loop of `apply`, over the tree and the counts of added and updated
files. -/
def copyStep (state : Disk fold β × Nat × Nat) (file : List α × β) :
    Except ApplyError (Disk fold β × Nat × Nat) := do
  let (t, existed) ← copyFile state.1 file.1 file.2
  return if existed then (t, state.2.1, state.2.2 + 1) else (t, state.2.1 + 1, state.2.2)

/-- The first loop of `apply`. -/
def copyFiles (t : Disk fold β) (files : List (List α × β)) :
    Except ApplyError (Disk fold β × Nat × Nat) :=
  files.foldlM copyStep (t, 0, 0)

/-- The staged files, in the order of the walk. -/
def stagedContents (order : Listing α) (staging : Disk fold β) : List (List α × β) :=
  (walkTopDown order staging).filterMap fun path =>
    (staging.read path).map fun content => (path, content)

/-- `stagedFiles`. -/
def stagedFiles (order : Listing α) (staging : Disk fold β) : List (List α) :=
  (walkTopDown order staging).filter fun path => !staging.isDirectory path

/-- `stagedDirectories`: the staged ones, and those on the way to a staged file. -/
def stagedDirectories (order : Listing α) (staging : Disk fold β) : List (List α) :=
  (walkTopDown order staging).flatMap fun path =>
    if staging.isDirectory path then [path] else ancestors path

/-- What the last loop of `apply` does with an entry of the destination. -/
def pruneEntry (files dirs : List (List α)) (state : Disk fold β × Nat) (entry : List α) :
    Disk fold β × Nat :=
  if state.1.isFile entry then
    if entry ∈ files then state
    else
      match state.1.delete entry with
      | some t => (t, state.2 + 1)
      | none => state
  else if state.1.isDirectory entry ∧ entry ∉ dirs then
    match state.1.delete entry with
    | some t => (t, state.2)
    | none => state
  else state

/-- `BundleSync.apply`. -/
def apply (order : Listing α) (staging dest : Disk fold β) (deleteExtras : Bool) :
    Except ApplyError (Disk fold β × SyncResult) := do
  let (t, added, updated) ← copyFiles dest (stagedContents order staging)
  if !deleteExtras then return (t, ⟨added, updated, 0⟩)
  let files := stagedFiles order staging
  let dirs := stagedDirectories order staging
  let (t, deleted) := (destinationEntriesBottomUp order t).foldl (pruneEntry files dirs) (t, 0)
  return (t, ⟨added, updated, deleted⟩)

end Definitions

/-! ### What a walk visits -/

section Walk

variable {α β : Type*} [DecidableEq α] {fold : α → α} {order : Listing α} {t : Disk fold β}
  {dir path : List α} {n : Nat}

theorem mem_listFiles :
    path ∈ listFiles order t dir ↔ path ∈ t.entries.map Prod.fst ∧ path.dropLast = dir := by
  rw [listFiles, (order.perm _).mem_iff, children, List.mem_filter, decide_eq_true_iff]

omit [DecidableEq α] in
theorem nodup_paths (t : Disk fold β) : (t.entries.map Prod.fst).Nodup := by
  have hnodup := t.nodup
  rw [show (fun entry : List α × Node β => entry.1.map fold) = List.map fold ∘ Prod.fst from rfl,
    ← List.map_map] at hnodup
  exact hnodup.of_map

/-- A child is its directory and a name. -/
theorem exists_name_of_child (h : path ∈ listFiles order t dir) : ∃ name, path = dir ++ [name] := by
  obtain ⟨hmem, rfl⟩ := mem_listFiles.mp h
  obtain ⟨entry, hentry, rfl⟩ := List.mem_map.mp hmem
  obtain hnil | ⟨above, name, hpath⟩ := List.eq_nil_or_concat entry.1
  · exact absurd hnil (t.parent entry hentry).1
  · rw [hpath, List.concat_eq_append, List.dropLast_concat]
    exact ⟨name, rfl⟩

omit [DecidableEq α] in
theorem length_le_depth (h : path ∈ t.entries.map Prod.fst) : path.length ≤ depth t := by
  obtain ⟨entry, hentry, rfl⟩ := List.mem_map.mp h
  rw [depth]
  exact List.le_max_of_le (List.mem_map.mpr ⟨entry, hentry, rfl⟩) le_rfl

/-- Everything on the way to a stored path is a stored directory. -/
theorem stored_of_leading {q : List α} (h : path ∈ t.entries.map Prod.fst) (hq : q ≠ [])
    (hpre : q <+: path) (hne : q ≠ path) : (q, Node.dir) ∈ t.entries := by
  induction path using List.reverseRecOn with
  | nil => exact absurd (List.prefix_nil.mp hpre) hq
  | append_singleton above name ih =>
    obtain ⟨entry, hentry, hpath⟩ := List.mem_map.mp h
    have hparent := (t.parent entry hentry).2
    rw [hpath, List.dropLast_concat] at hparent
    rcases List.prefix_concat_iff.mp hpre with heq | hpre
    · exact absurd heq hne
    · rcases hparent with rfl | hdir
      · exact absurd (List.prefix_nil.mp hpre) hq
      · by_cases heq : q = above
        · exact heq ▸ hdir
        · exact ih (List.mem_map.mpr ⟨_, hdir, rfl⟩) hpre heq

theorem prefix_of_mem_visit (h : path ∈ visit order t n dir) :
    path ∈ t.entries.map Prod.fst ∧ dir <+: path ∧ path ≠ dir := by
  induction n generalizing dir with
  | zero => exact absurd h List.not_mem_nil
  | succ n ih =>
    rw [visit, List.mem_flatMap] at h
    obtain ⟨child, hchild, hmem⟩ := h
    obtain ⟨name, rfl⟩ := exists_name_of_child hchild
    rcases List.mem_append.mp hmem with hmem | hmem
    · split at hmem
      · obtain ⟨hstored, hpre, -⟩ := ih hmem
        have hdir : dir <+: path := (List.prefix_append _ _).trans hpre
        refine ⟨hstored, hdir, ?_⟩
        rintro rfl
        have := hpre.length_le
        rw [List.length_append, List.length_singleton] at this
        omega
      · exact absurd hmem List.not_mem_nil
    · rw [List.mem_singleton] at hmem
      subst hmem
      exact ⟨(mem_listFiles.mp hchild).1, List.prefix_append _ _, by simp⟩

theorem mem_visit_of_prefix (h : path ∈ t.entries.map Prod.fst) (hpre : dir <+: path)
    (hne : path ≠ dir) (hlength : path.length ≤ dir.length + n) : path ∈ visit order t n dir := by
  induction n generalizing dir with
  | zero => exact absurd (hpre.eq_of_length_le hlength) hne.symm
  | succ n ih =>
    obtain ⟨rest, rfl⟩ := hpre
    obtain _ | ⟨name, rest⟩ := rest
    · exact absurd (List.append_nil dir) hne
    · have hbelow : dir ++ [name] <+: dir ++ name :: rest := ⟨rest, by simp⟩
      have hchild : dir ++ [name] ∈ t.entries.map Prod.fst := by
        by_cases heq : dir ++ [name] = dir ++ name :: rest
        · exact heq ▸ h
        · exact List.mem_map.mpr ⟨_, stored_of_leading h (by simp) hbelow heq, rfl⟩
      rw [visit, List.mem_flatMap]
      refine ⟨dir ++ [name], mem_listFiles.mpr ⟨hchild, List.dropLast_concat⟩, ?_⟩
      by_cases heq : dir ++ [name] = dir ++ name :: rest
      · exact List.mem_append_right _ (List.mem_singleton.mpr heq.symm)
      · -- a proper ancestor is a directory, and the walk goes into it
        have hdir := find_of_mem (stored_of_leading h (by simp) hbelow heq)
        refine List.mem_append_left _ ?_
        rw [if_pos (isDirectory_iff.mpr (.inr ⟨_, hdir⟩))]
        refine ih hbelow (Ne.symm heq) ?_
        simp only [List.length_append, List.length_cons, List.length_nil] at hlength ⊢
        omega

theorem mem_destinationEntriesBottomUp :
    path ∈ destinationEntriesBottomUp order t ↔ path ∈ t.entries.map Prod.fst := by
  refine ⟨fun h => (prefix_of_mem_visit h).1, fun h => ?_⟩
  obtain ⟨entry, hentry, rfl⟩ := List.mem_map.mp h
  refine mem_visit_of_prefix h List.nil_prefix (t.parent entry hentry).1 ?_
  have := length_le_depth h
  rw [List.length_nil]
  omega

theorem nodup_visit : (visit order t n dir).Nodup := by
  induction n generalizing dir with
  | zero => exact List.nodup_nil
  | succ n ih =>
    have hchildren : (listFiles order t dir).Nodup :=
      (order.perm _).nodup_iff.mpr ((nodup_paths t).sublist List.filter_sublist)
    have hbelow : ∀ child path, path ∈ (if t.isDirectory child then visit order t n child else []) →
        child <+: path ∧ path ≠ child := by
      intro child path hmem
      split at hmem
      · exact (prefix_of_mem_visit hmem).2
      · exact absurd hmem List.not_mem_nil
    rw [visit, List.nodup_flatMap]
    constructor
    · intro child _
      refine List.nodup_append.mpr ⟨?_, List.nodup_singleton _, ?_⟩
      · split
        · exact ih
        · exact List.nodup_nil
      · intro path hpath last hlast heq
        rw [List.mem_singleton.mp hlast] at heq
        exact (hbelow child path hpath).2 heq
    · refine hchildren.imp_of_mem fun {child child'} hchild hchild' hne path hpath hpath' => hne ?_
      -- two children of one directory on the way to one path
      have hpre : ∀ {c}, path ∈ (if t.isDirectory c then visit order t n c else []) ++ [c] →
          c <+: path := by
        intro c hmem
        rcases List.mem_append.mp hmem with hmem | hmem
        · exact (hbelow c path hmem).1
        · exact List.mem_singleton.mp hmem ▸ List.prefix_refl _
      obtain ⟨name, rfl⟩ := exists_name_of_child hchild
      obtain ⟨name', rfl⟩ := exists_name_of_child hchild'
      exact (List.prefix_of_prefix_length_le (hpre hpath) (hpre hpath') (by simp)).eq_of_length
        (by simp)

/-- Both walks visit the same paths. -/
theorem walkBelow_perm : (walkBelow order t n dir).Perm (visit order t n dir) := by
  induction n generalizing dir with
  | zero => exact List.Perm.refl _
  | succ n ih =>
    rw [walkBelow, visit]
    refine List.Perm.flatMap_left _ fun child _ => ?_
    have hperm :
      ((if t.isDirectory child then walkBelow order t n child else []) : List (List α)).Perm
        (if t.isDirectory child then visit order t n child else []) := by
      split
      · exact ih
      · exact List.Perm.refl _
    exact (List.Perm.cons child hperm).trans (List.perm_append_singleton child _).symm

theorem mem_walkTopDown : path ∈ walkTopDown order t ↔ path ∈ t.entries.map Prod.fst :=
  walkBelow_perm.mem_iff.trans mem_destinationEntriesBottomUp

theorem nodup_walkTopDown : (walkTopDown order t).Nodup :=
  walkBelow_perm.nodup_iff.mpr nodup_visit

end Walk

/-! ### Copying one file -/

section CopyFile

variable {α β : Type*} [DecidableEq α] {fold : α → α} {t t' : Disk fold β} {above : List α}
  {name : α} {content : β} {existed : Bool}

/-- Nothing is in the way of a file: no file where a directory is needed, and no directory with
something in it at the path itself. -/
structure Unobstructed (t : Disk fold β) (path : List α) : Prop where
  above : ∀ q, q ≠ [] → q <+: path → q ≠ path → ¬ t.isFile q
  target : ∀ stored, t.find path = some (stored, .dir) → ∀ name, t.find (path ++ [name]) = none

/-- What copying a file leaves: the file and the directories on the way to it, each in its
spelling, and the rest as it was. -/
structure CopiedFile (t t' : Disk fold β) (above : List α) (name : α) (content : β) : Prop where
  file : t'.find (above ++ [name]) = some (t.spell above ++ [name], .file content)
  dirs : ∀ q, q ≠ [] → q <+: above → t'.find q = some (t.spell q, .dir)
  frame : ∀ q, (∀ r, r ≠ [] → r <+: above ++ [name] → q.map fold ≠ r.map fold) →
    t'.find q = t.find q

theorem find_below_target {made : Disk fold β} (h : Made t made above) (x : α) :
    made.find (above ++ [name] ++ [x]) = t.find (above ++ [name] ++ [x]) :=
  h.frame _ fun _ _ hpre =>
    map_concat_ne_of_leading (hpre.trans (List.prefix_append _ _))

theorem find_target {made : Disk fold β} (h : Made t made above) :
    made.find (above ++ [name]) = t.find (above ++ [name]) :=
  h.frame _ fun _ _ hpre => map_concat_ne_of_leading hpre

/-- The directory above the target after the first step: made, unless a file has its place. -/
theorem makeParent_eq_some {made : Disk fold β} (h : makeParent t (above ++ [name]) = some made) :
    Made t made above ∨ made = t ∧ t.isFile above := by
  rw [makeParent, List.dropLast_concat] at h
  split at h
  · rename_i hpresent
    obtain rfl := Option.some.inj h
    rw [present, Bool.or_eq_true, List.isEmpty_iff] at hpresent
    rcases hpresent with hnil | hsome
    · exact .inl (.refl (.inl hnil))
    · obtain ⟨⟨stored, node⟩, hfind⟩ := Option.isSome_iff_exists.mp hsome
      cases node with
      | dir => exact .inl (.refl (.inr ⟨stored, hfind⟩))
      | file content => exact .inr ⟨rfl, isFile_iff.mpr ⟨stored, content, hfind⟩⟩
  · exact .inl (made_of_mkdirs h)

/-- The target after the second step: there is nothing, and the rest is as it was. -/
theorem clearTarget_eq_some {path : List α} {cleared : Disk fold β}
    (h : clearTarget t path = some cleared) (q : List α) :
    cleared.find q = if q.map fold = path.map fold then none else t.find q := by
  rw [clearTarget] at h
  split at h
  · exact find_delete h q
  · rename_i hnone
    obtain rfl := Option.some.inj h
    split
    · rename_i hsame
      rw [find_congr hsame]
      simpa using hnone
    · rfl

theorem clearTarget_isSome_iff {path : List α} : (∃ cleared, clearTarget t path = some cleared) ↔
    ∀ stored, t.find path = some (stored, .dir) → ∀ x, t.find (path ++ [x]) = none := by
  rw [clearTarget]
  rcases hfind : t.find path with _ | ⟨stored, node⟩
  · simp
  · rw [if_pos (by simp), delete_isSome_iff hfind]
    cases node with
    | dir =>
      refine ⟨fun h _ _ => h, fun h => h stored rfl⟩
    | file content =>
      refine ⟨fun _ _ h => absurd h (by simp), fun _ => find_below_file hfind⟩

/-- **Copying one file.** -/
theorem copyFile_spec (h : copyFile t (above ++ [name]) content = .ok (t', existed)) :
    existed = t.isFile (above ++ [name]) ∧ Unobstructed t (above ++ [name]) ∧
      CopiedFile t t' above name content := by
  rw [copyFile] at h
  split at h
  · exact absurd h (by simp)
  rename_i made hmakeParent
  split at h
  · exact absurd h (by simp)
  rename_i cleared hclear
  split at h
  · exact absurd h (by simp)
  rename_i created hcreate
  cases h
  have hcleared := clearTarget_eq_some hclear
  have hnew : cleared.find (above ++ [name]) = none := by rw [hcleared, if_pos rfl]
  have hdir : cleared.isDirectory above := (create_isSome_iff hnew).mp ⟨_, hcreate⟩
  have hkeep : ∀ q, q <+: above → cleared.find q = made.find q := by
    intro q hpre
    rw [hcleared, if_neg (map_concat_ne_of_leading hpre).symm]
  -- a file in the place of the directory would have made the last step fail
  have hmade : Made t made above := by
    rcases makeParent_eq_some hmakeParent with hmade | ⟨rfl, hfile⟩
    · exact hmade
    · obtain ⟨stored, other, hfind⟩ := isFile_iff.mp hfile
      rcases isDirectory_iff.mp hdir with rfl | ⟨stored', hfind'⟩
      · rw [find_nil] at hfind
        exact absurd hfind (by simp)
      · rw [hkeep above (List.prefix_refl _), hfind] at hfind'
        exact absurd hfind' (by simp)
  have hspell : cleared.spell above = t.spell above := by
    by_cases hnil : above = []
    · rw [hnil]
      rfl
    · rw [spell_of_find ((hkeep above (List.prefix_refl _)).trans
        (hmade.found above hnil (List.prefix_refl _)))]
  have hfind := find_create hcreate
  rw [hspell] at hfind
  refine ⟨rfl, ⟨?_, ?_⟩, ⟨?_, ?_, ?_⟩⟩
  · intro q hq hpre hne hfile
    have hpre := (List.prefix_concat_iff.mp hpre).resolve_left hne
    obtain ⟨stored, other, hfile⟩ := isFile_iff.mp hfile
    rw [makeParent, List.dropLast_concat] at hmakeParent
    split at hmakeParent
    · obtain rfl := Option.some.inj hmakeParent
      rw [hmade.found q hq hpre] at hfile
      exact absurd hfile (by simp)
    · exact mkdirs_isSome_iff.mp ⟨made, hmakeParent⟩ q hq hpre stored other hfile
  · intro stored hstored x
    rw [← find_target hmade] at hstored
    rw [← find_below_target hmade]
    exact clearTarget_isSome_iff.mp ⟨cleared, hclear⟩ stored hstored x
  · rw [hfind, if_pos rfl]
  · intro q hq hpre
    rw [hfind, if_neg (map_concat_ne_of_leading hpre).symm, hkeep q hpre]
    exact hmade.found q hq hpre
  · intro q hframe
    have htarget := hframe _ (by simp) (List.prefix_refl (above ++ [name]))
    rw [hfind, if_neg htarget, hcleared, if_neg htarget]
    exact hmade.frame q fun r hr hpre => hframe r hr (hpre.trans (List.prefix_append _ _))

/-- A file with nothing in its way is copied. -/
theorem copyFile_isOk (h : Unobstructed t (above ++ [name])) :
    ∃ t' existed, copyFile t (above ++ [name]) content = .ok (t', existed) := by
  have hfree : ∀ q, q ≠ [] → q <+: above → ¬ t.isFile q := by
    intro q hq hpre
    refine h.above q hq (hpre.trans (List.prefix_append _ _)) ?_
    rintro rfl
    exact absurd hpre.length_le (by simp)
  obtain ⟨made, hmakeParent⟩ : ∃ made, makeParent t (above ++ [name]) = some made := by
    rw [makeParent, List.dropLast_concat]
    split
    · exact ⟨t, rfl⟩
    · refine mkdirs_isSome_iff.mpr fun q hq hpre stored other hfile => ?_
      exact hfree q hq hpre (isFile_iff.mpr ⟨stored, other, hfile⟩)
  have hmade : Made t made above := by
    rcases makeParent_eq_some hmakeParent with hmade | ⟨rfl, hfile⟩
    · exact hmade
    · by_cases hnil : above = []
      · exact .refl (.inl hnil)
      · exact absurd hfile (hfree above hnil (List.prefix_refl _))
  obtain ⟨cleared, hclear⟩ : ∃ cleared, clearTarget made (above ++ [name]) = some cleared := by
    refine clearTarget_isSome_iff.mpr fun stored hstored x => ?_
    rw [find_target hmade] at hstored
    rw [find_below_target hmade]
    exact h.target stored hstored x
  have hcleared := clearTarget_eq_some hclear
  have hdir : cleared.isDirectory above := by
    by_cases hnil : above = []
    · exact isDirectory_iff.mpr (.inl hnil)
    · refine isDirectory_iff.mpr (.inr ⟨t.spell above, ?_⟩)
      rw [hcleared, if_neg (map_concat_ne_of_leading (List.prefix_refl _)).symm]
      exact hmade.found above hnil (List.prefix_refl _)
  have hnew : cleared.find (above ++ [name]) = none := by rw [hcleared, if_pos rfl]
  obtain ⟨created, hcreate⟩ : ∃ created, cleared.create (above ++ [name]) content = some created :=
    (create_isSome_iff hnew).mpr hdir
  refine ⟨created, t.isFile (above ++ [name]), ?_⟩
  simp only [copyFile, hmakeParent, hclear, hcreate]

end CopyFile

/-! ### Copying all files -/

section CopyFiles

variable {α β : Type*} [DecidableEq α] {fold : α → α} {staging dest t t' : Disk fold β}
  {done files : List (List α × β)}

/-- What is left when the listed files are copied to the destination: each file and the directories
on the way to it, in the spelling they have or get, and the rest as it was. -/
structure Copied (dest t : Disk fold β) (done : List (List α × β)) : Prop where
  clear : ∀ file ∈ done, Unobstructed dest file.1
  file : ∀ above name content, (above ++ [name], content) ∈ done →
    t.find (above ++ [name]) = some (dest.spell above ++ [name], .file content)
  dirs : ∀ file ∈ done, ∀ q, q ≠ [] → q <+: file.1 → q ≠ file.1 →
    t.find q = some (dest.spell q, .dir)
  frame : ∀ q, (∀ file ∈ done, ∀ r, r ≠ [] → r <+: file.1 → q.map fold ≠ r.map fold) →
    t.find q = dest.find q

theorem Copied.nil : Copied dest dest [] where
  clear := by simp
  file := by simp
  dirs := by simp
  frame := fun _ _ => rfl

/-- The listed files are files of the staging tree. -/
def StagedAs (staging : Disk fold β) (files : List (List α × β)) : Prop :=
  ∀ file ∈ files, (file.1, Node.file file.2) ∈ staging.entries

omit [DecidableEq α] in
/-- Two staged paths that are the same after folding are one. -/
theorem eq_of_map_fold {entry entry' : List α × Node β} (h : entry ∈ staging.entries)
    (h' : entry' ∈ staging.entries) (hfold : entry.1.map fold = entry'.1.map fold) :
    entry = entry' :=
  List.inj_on_of_nodup_map staging.nodup h h' hfold

/-- What is on the way to a staged file is a staged directory. -/
theorem dir_of_prefix {path q : List α} {content : β}
    (h : (path, Node.file content) ∈ staging.entries) (hq : q ≠ []) (hpre : q <+: path)
    (hne : q ≠ path) : (q, Node.dir) ∈ staging.entries :=
  stored_of_leading (List.mem_map.mpr ⟨_, h, rfl⟩) hq hpre hne

section Next

variable {path : List α} {content : β} (hcopied : Copied dest t done)
  (hdone : StagedAs staging done) (hpath : (path, Node.file content) ∈ staging.entries)
  (hnew : path ∉ done.map Prod.fst)

include hcopied hdone hpath hnew

/-- Nothing has happened yet at and below the next file. -/
theorem find_next_of_prefix {q : List α} (hpre : path <+: q) : t.find q = dest.find q := by
  refine hcopied.frame q fun file hfile r hr hrprefix hfold => ?_
  -- the part of `r` that is as long as the path is the path
  have hlength : q.length = r.length := by simpa using congrArg List.length hfold
  have htake : (r.take path.length).map fold = path.map fold := by
    rw [List.map_take, ← hfold, ← List.map_take, List.prefix_iff_eq_take.mp hpre]
    simp
  have hle : path.length ≤ r.length := hlength ▸ hpre.length_le
  have hpathne : path ≠ [] := (staging.parent _ hpath).1
  have htakene : r.take path.length ≠ [] := by
    intro hnil
    rw [hnil, List.map_nil] at htake
    exact hpathne (List.map_eq_nil_iff.mp htake.symm)
  have htakeprefix : r.take path.length <+: file.1 := (List.take_prefix _ _).trans hrprefix
  by_cases heq : r.take path.length = file.1
  · have hsame := eq_of_map_fold (hdone file hfile) hpath (heq ▸ htake)
    exact hnew (List.mem_map.mpr ⟨file, hfile, congrArg Prod.fst hsame⟩)
  · have hdir := dir_of_prefix (hdone file hfile) htakene htakeprefix heq
    exact absurd (congrArg Prod.snd (eq_of_map_fold hdir hpath htake)) (by simp)

omit hnew in
/-- A directory on the way to the next file is as it was, or has been made in its spelling. -/
theorem find_above_next {q : List α} (hq : q ≠ []) (hpre : q <+: path) (hne : q ≠ path) :
    t.find q = dest.find q ∨ t.find q = some (dest.spell q, .dir) ∧ ¬ dest.isFile q := by
  by_cases hframe : ∀ file ∈ done, ∀ r, r ≠ [] → r <+: file.1 → q.map fold ≠ r.map fold
  · exact .inl (hcopied.frame q hframe)
  · push Not at hframe
    obtain ⟨file, hfile, r, hr, hrprefix, hfold⟩ := hframe
    have hdir := dir_of_prefix hpath hq hpre hne
    have hrne : r ≠ file.1 := by
      rintro rfl
      exact absurd (congrArg Prod.snd (eq_of_map_fold hdir (hdone file hfile) hfold)) (by simp)
    have hrdir := dir_of_prefix (hdone file hfile) hr hrprefix hrne
    obtain rfl : q = r := congrArg Prod.fst (eq_of_map_fold hdir hrdir hfold)
    exact .inr ⟨hcopied.dirs file hfile q hr hrprefix hrne,
      (hcopied.clear file hfile).above q hr hrprefix hrne⟩

omit hnew in
/-- So directories on the way get the spelling they would have got at the start. -/
theorem spell_above_next {q : List α} (hpre : q <+: path) (hne : q ≠ path) :
    t.spell q = dest.spell q := by
  induction q using List.reverseRecOn with
  | nil => rfl
  | append_singleton above name ih =>
    have habove : t.spell above = dest.spell above := by
      refine ih ((List.prefix_append _ _).trans hpre) ?_
      rintro rfl
      exact absurd hpre.length_le (by simp)
    rcases find_above_next hcopied hdone hpath (by simp) hpre hne with hfind | ⟨hfind, -⟩
    · rw [spell_concat, spell_concat, hfind, habove]
    · rw [spell_of_find hfind]

/-- The next file is obstructed exactly when it was at the start. -/
theorem unobstructed_next : Unobstructed t path ↔ Unobstructed dest path := by
  have htarget : t.find path = dest.find path :=
    find_next_of_prefix hcopied hdone hpath hnew (List.prefix_refl _)
  have hbelow : ∀ x, t.find (path ++ [x]) = dest.find (path ++ [x]) := fun x =>
    find_next_of_prefix hcopied hdone hpath hnew (List.prefix_append _ _)
  have habove : ∀ q, q ≠ [] → q <+: path → q ≠ path → (t.isFile q ↔ dest.isFile q) := by
    intro q hq hpre hne
    rcases find_above_next hcopied hdone hpath hq hpre hne with hfind | ⟨hfind, hfile⟩
    · rw [isFile_iff, isFile_iff, hfind]
    · rw [isFile_iff, hfind]
      simp [hfile]
  constructor
  · intro h
    refine ⟨fun q hq hpre hne => ?_, fun stored hstored x => ?_⟩
    · rw [← habove q hq hpre hne]
      exact h.above q hq hpre hne
    · rw [← hbelow]
      exact h.target stored (htarget.trans hstored) x
  · intro h
    refine ⟨fun q hq hpre hne => ?_, fun stored hstored x => ?_⟩
    · rw [habove q hq hpre hne]
      exact h.above q hq hpre hne
    · rw [hbelow]
      exact h.target stored (htarget.symm.trans hstored) x

end Next

/-- One more file is copied. -/
theorem Copied.next {above : List α} {name : α} {content : β} {existed : Bool}
    (hcopied : Copied dest t done) (hdone : StagedAs staging done)
    (hpath : (above ++ [name], Node.file content) ∈ staging.entries)
    (hnew : above ++ [name] ∉ done.map Prod.fst)
    (h : copyFile t (above ++ [name]) content = .ok (t', existed)) :
    Copied dest t' (done ++ [(above ++ [name], content)]) := by
  obtain ⟨-, hun, hfile⟩ := copyFile_spec h
  have hspell : ∀ {q}, q <+: above → t.spell q = dest.spell q := by
    intro q hpre
    refine spell_above_next hcopied hdone hpath (hpre.trans (List.prefix_append _ _)) ?_
    rintro rfl
    exact absurd hpre.length_le (by simp)
  -- what is on the way to the new file, or the file itself, is an entry of the staging tree
  have hentry : ∀ {r}, r ≠ [] → r <+: above ++ [name] →
      r = above ++ [name] ∨ r <+: above ∧ (r, Node.dir) ∈ staging.entries := by
    intro r hr hpre
    rcases List.prefix_concat_iff.mp hpre with heq | habove
    · exact .inl heq
    · refine .inr ⟨habove, dir_of_prefix hpath hr hpre ?_⟩
      rintro rfl
      exact absurd habove.length_le (by simp)
  refine ⟨?_, ?_, ?_, ?_⟩
  · intro file hmem
    rcases List.mem_append.mp hmem with hmem | hmem
    · exact hcopied.clear file hmem
    · rw [List.mem_singleton.mp hmem]
      exact (unobstructed_next hcopied hdone hpath hnew).mp hun
  · intro above' name' content' hmem
    rcases List.mem_append.mp hmem with hmem | hmem
    · rw [hfile.frame, hcopied.file above' name' content' hmem]
      intro r hr hpre hfold
      rcases hentry hr hpre with rfl | ⟨-, hdir⟩
      · have hsame := eq_of_map_fold (hdone _ hmem) hpath hfold
        exact hnew (List.mem_map.mpr ⟨_, hmem, congrArg Prod.fst hsame⟩)
      · exact absurd (congrArg Prod.snd (eq_of_map_fold (hdone _ hmem) hdir hfold)) (by simp)
    · rw [List.mem_singleton, Prod.mk.injEq] at hmem
      obtain ⟨hpath', rfl⟩ := hmem
      obtain ⟨rfl, hname⟩ := List.append_inj' hpath' rfl
      cases hname
      rw [hfile.file, hspell (List.prefix_refl _)]
  · intro file hmem q hq hpre hne
    by_cases hon : ∀ r, r ≠ [] → r <+: above ++ [name] → q.map fold ≠ r.map fold
    · rcases List.mem_append.mp hmem with hmem | hmem
      · rw [hfile.frame q hon]
        exact hcopied.dirs file hmem q hq hpre hne
      · rw [List.mem_singleton.mp hmem] at hpre
        exact absurd rfl (hon q hq hpre)
    · push Not at hon
      obtain ⟨r, hr, hrprefix, hfold⟩ := hon
      have hqdir : (q, Node.dir) ∈ staging.entries := by
        rcases List.mem_append.mp hmem with hmem | hmem
        · exact dir_of_prefix (hdone file hmem) hq hpre hne
        · rw [List.mem_singleton.mp hmem] at hpre hne
          exact dir_of_prefix hpath hq hpre hne
      rcases hentry hr hrprefix with rfl | ⟨habove, hdir⟩
      · exact absurd (congrArg Prod.snd (eq_of_map_fold hqdir hpath hfold)) (by simp)
      · obtain rfl : q = r := congrArg Prod.fst (eq_of_map_fold hqdir hdir hfold)
        rw [hfile.dirs q hq habove, hspell habove]
  · intro q hframe
    rw [hfile.frame q (hframe _ (List.mem_append_right _ List.mem_cons_self))]
    exact hcopied.frame q fun file hmem => hframe file (List.mem_append_left _ hmem)

/-- **The first loop.** It ends normally exactly when none of the files is obstructed, and then
counts the files that were there as updated and the others as added. -/
theorem copyLoop_spec {added updated : Nat} (hcopied : Copied dest t done)
    (hstaged : StagedAs staging (done ++ files)) (hnodup : ((done ++ files).map Prod.fst).Nodup) :
    ((∃ r, files.foldlM copyStep (t, added, updated) = .ok r) ↔
      ∀ file ∈ files, Unobstructed dest file.1) ∧
    ∀ r, files.foldlM copyStep (t, added, updated) = .ok r →
      Copied dest r.1 (done ++ files) ∧
      r.2.2 = updated + (files.filter fun file => dest.isFile file.1).length ∧
      r.2.1 + r.2.2 = added + updated + files.length := by
  induction files generalizing t done added updated with
  | nil =>
    refine ⟨⟨fun _ => by simp, fun _ => ⟨_, rfl⟩⟩, fun r hr => ?_⟩
    cases hr
    simpa using hcopied
  | cons file files ih =>
    obtain ⟨path, content⟩ := file
    have hdone : StagedAs staging done := fun file hmem =>
      hstaged file (List.mem_append_left _ hmem)
    have hpath : (path, Node.file content) ∈ staging.entries :=
      hstaged _ (List.mem_append_right _ List.mem_cons_self)
    have hnew : path ∉ done.map Prod.fst := by
      rw [List.map_append, List.nodup_append] at hnodup
      exact fun hmem => hnodup.2.2 path hmem path (by simp) rfl
    obtain hnil | ⟨above, name, rfl⟩ := List.eq_nil_or_concat path
    · exact absurd hnil (staging.parent _ hpath).1
    rw [List.concat_eq_append] at *
    have happend : done ++ (above ++ [name], content) :: files =
        (done ++ [(above ++ [name], content)]) ++ files := by simp
    rw [happend] at hstaged hnodup ⊢
    have hsame := unobstructed_next hcopied hdone hpath hnew
    have htarget : t.isFile (above ++ [name]) = dest.isFile (above ++ [name]) := by
      have hfind := find_next_of_prefix hcopied hdone hpath hnew (List.prefix_refl _)
      rw [isFile, isFile, hfind]
    rw [List.foldlM_cons]
    rcases hcopy : copyFile t (above ++ [name]) content with error | ⟨t₁, existed⟩
    · have hstep : copyStep (t, added, updated) (above ++ [name], content) = .error error := by
        rw [copyStep, hcopy]
        rfl
      rw [hstep]
      refine ⟨⟨?_, fun hall => ?_⟩, fun r hr => absurd hr (by simp [bind, Except.bind])⟩
      · rintro ⟨r, hr⟩
        exact absurd hr (by simp [bind, Except.bind])
      obtain ⟨t₁, existed, hok⟩ : ∃ t₁ existed, copyFile t (above ++ [name]) content =
          .ok (t₁, existed) := copyFile_isOk (hsame.mpr (hall _ List.mem_cons_self))
      rw [hok] at hcopy
      exact absurd hcopy (by simp)
    · obtain ⟨hexisted, hun, -⟩ := copyFile_spec hcopy
      have hnext := hcopied.next hdone hpath hnew hcopy
      rw [htarget] at hexisted
      have hstep : copyStep (t, added, updated) (above ++ [name], content) =
          .ok (t₁, added + (!existed).toNat, updated + existed.toNat) := by
        rw [copyStep, hcopy]
        cases existed <;> rfl
      rw [hstep]
      simp only [bind, Except.bind]
      obtain ⟨hiff, hspec⟩ := @ih t₁ _ (added + (!existed).toNat) (updated + existed.toNat) hnext
        hstaged hnodup
      refine ⟨?_, fun r hr => ?_⟩
      · rw [List.forall_mem_cons]
        exact hiff.trans ⟨fun h => ⟨hsame.mp hun, h⟩, fun h => h.2⟩
      · obtain ⟨hcopied', hupdated, hsum⟩ := hspec r hr
        have hcount : (((above ++ [name], content) :: files).filter fun file =>
            dest.isFile file.1).length =
            existed.toNat + (files.filter fun file => dest.isFile file.1).length := by
          rw [List.filter_cons, hexisted]
          split
          · rename_i hfile
            rw [hfile, List.length_cons]
            exact Nat.add_comm _ _
          · rename_i hfile
            rw [Bool.eq_false_iff.mpr hfile]
            exact (Nat.zero_add _).symm
        have hone : (!existed).toNat + existed.toNat = 1 := by
          cases existed <;> rfl
        refine ⟨hcopied', ?_, ?_⟩
        · rw [hupdated, hcount]
          omega
        · rw [hsum, List.length_cons]
          omega

end CopyFiles

/-! ### Deleting the extras -/

section Prune

variable {α β : Type*} [DecidableEq α] {fold : α → α} {t u : Disk fold β}
  {files dirs : List (List α)}
  {q stored : List α} {content : β}

/-- A file is deleted when it can be found. -/
theorem exists_delete_of_isFile {entry : List α} (h : t.isFile entry) :
    ∃ t', t.delete entry = some t' := by
  obtain ⟨stored, content, hfind⟩ := isFile_iff.mp h
  exact (delete_isSome_iff hfind).mpr (find_below_file hfind)

/-- **One entry.** A file that is not staged is deleted and counted; no other file changes. -/
theorem pruneEntry_spec (files dirs : List (List α)) (t : Disk fold β) (count : Nat)
    (entry : List α) :
    (∀ q stored content, (pruneEntry files dirs (t, count) entry).1.find q =
        some (stored, .file content) ↔
      t.find q = some (stored, .file content) ∧ ¬ (q.map fold = entry.map fold ∧ entry ∉ files)) ∧
    (pruneEntry files dirs (t, count) entry).2 =
      count + if t.isFile entry && decide (entry ∉ files) then 1 else 0 := by
  rw [pruneEntry]
  simp only
  split
  · rename_i hfile
    split
    · rename_i hstaged
      exact ⟨fun q stored content => by simp [hstaged], by simp [hstaged]⟩
    · rename_i hstaged
      obtain ⟨t', hdelete⟩ := exists_delete_of_isFile hfile
      rw [hdelete]
      refine ⟨fun q stored content => ?_, by simp [hfile, hstaged]⟩
      rw [find_delete hdelete]
      split
      · rename_i hsame
        simp [hsame, hstaged]
      · rename_i hdiff
        simp [hdiff]
  · rename_i hfile
    have hnot : ∀ q stored content, t.find q = some (stored, .file content) →
        q.map fold ≠ entry.map fold := by
      intro q stored content hfind hsame
      rw [find_congr hsame] at hfind
      exact hfile (isFile_iff.mpr ⟨stored, content, hfind⟩)
    have hsame : ∀ q stored content, t.find q = some (stored, .file content) ↔
        t.find q = some (stored, .file content) ∧
          ¬ (q.map fold = entry.map fold ∧ entry ∉ files) := by
      intro q stored content
      exact ⟨fun h => ⟨h, fun hboth => hnot q stored content h hboth.1⟩, fun h => h.1⟩
    split
    · split
      · rename_i t' hdelete
        refine ⟨fun q stored content => ?_, by simp [hfile]⟩
        rw [find_delete hdelete]
        split
        · rename_i heq
          exact iff_of_false (by simp) fun h => hnot q stored content h.1 heq
        · rename_i hdiff
          simp [hdiff]
      · exact ⟨hsame, by simp [hfile]⟩
    · exact ⟨hsame, by simp [hfile]⟩

/-- **The last loop.** The files that are left are those whose listed path is a staged one, or that
were not listed; the others are counted. -/
theorem pruneLoop_spec {entries : List (List α)} {count : Nat}
    (hnodup : (entries.map (List.map fold)).Nodup) :
    (∀ q stored content, (entries.foldl (pruneEntry files dirs) (t, count)).1.find q =
        some (stored, .file content) ↔
      t.find q = some (stored, .file content) ∧
        ∀ entry ∈ entries, ¬ (q.map fold = entry.map fold ∧ entry ∉ files)) ∧
    (entries.foldl (pruneEntry files dirs) (t, count)).2 =
      count + (entries.filter fun entry => t.isFile entry && decide (entry ∉ files)).length := by
  induction entries generalizing t count with
  | nil => simp
  | cons entry entries ih =>
    rw [List.map_cons, List.nodup_cons] at hnodup
    obtain ⟨hfind, hcount⟩ := pruneEntry_spec files dirs t count entry
    rcases hstep : pruneEntry files dirs (t, count) entry with ⟨t', count'⟩
    rw [hstep] at hfind hcount
    simp only at hfind hcount
    obtain ⟨hfind', hcount'⟩ := @ih t' count' hnodup.2
    rw [List.foldl_cons, hstep]
    constructor
    · intro q stored content
      rw [hfind', hfind, List.forall_mem_cons, and_assoc]
    · -- the other entries are files after the step exactly when they were before
      have hsame : ∀ other ∈ entries, (t'.isFile other && decide (other ∉ files)) =
          (t.isFile other && decide (other ∉ files)) := by
        intro other hother
        have hdiff : other.map fold ≠ entry.map fold := fun heq =>
          hnodup.1 (heq ▸ List.mem_map_of_mem hother)
        have hfile : t'.isFile other = t.isFile other := by
          rw [Bool.eq_iff_iff, isFile_iff, isFile_iff]
          simp [hfind, hdiff]
        rw [hfile]
      rw [hcount', hcount, List.filter_congr hsame, List.filter_cons]
      split
      · rw [List.length_cons]
        omega
      · omega

end Prune

/-! ### The staged files -/

section Staged

variable {α β : Type*} [DecidableEq α] {fold : α → α} {order : Listing α}
  {staging dest t : Disk fold β}
  {path : List α} {content : β}

/-- The paths of the files of a tree. -/
def filePaths (t : Disk fold β) : List (List α) :=
  (t.entries.filter fun entry => !entry.2.isDir).map Prod.fst

omit [DecidableEq α] in
theorem mem_filePaths :
    path ∈ filePaths t ↔ ∃ content, (path, Node.file content) ∈ t.entries := by
  rw [filePaths, List.mem_map]
  constructor
  · rintro ⟨⟨path', node⟩, hentry, rfl⟩
    obtain ⟨hmem, hdir⟩ := List.mem_filter.mp hentry
    cases node with
    | dir => exact absurd hdir (by simp [Node.isDir])
    | file content => exact ⟨content, hmem⟩
  · rintro ⟨content, hmem⟩
    exact ⟨_, List.mem_filter.mpr ⟨hmem, rfl⟩, rfl⟩

omit [DecidableEq α] in
theorem nodup_filePaths : (filePaths t).Nodup :=
  (nodup_paths t).sublist (List.filter_sublist.map _)

/-- A stored path resolves to itself. -/
theorem entry_of_mem_paths (h : path ∈ t.entries.map Prod.fst) :
    ∃ node, (path, node) ∈ t.entries ∧ t.find path = some (path, node) := by
  obtain ⟨entry, hentry, rfl⟩ := List.mem_map.mp h
  exact ⟨entry.2, hentry, find_of_mem hentry⟩

theorem mem_stagedContents :
    (path, content) ∈ stagedContents order staging ↔
      (path, Node.file content) ∈ staging.entries := by
  rw [stagedContents, List.mem_filterMap]
  constructor
  · rintro ⟨path', hwalk, hread⟩
    obtain ⟨content', hcontent, heq⟩ := Option.map_eq_some_iff.mp hread
    cases heq
    obtain ⟨node, hmem, hfind⟩ := entry_of_mem_paths (mem_walkTopDown.mp hwalk)
    obtain ⟨stored, hfile⟩ := read_eq_some_iff.mp hcontent
    rw [hfind] at hfile
    cases hfile
    exact hmem
  · intro hmem
    refine ⟨path, mem_walkTopDown.mpr (List.mem_map.mpr ⟨_, hmem, rfl⟩), ?_⟩
    rw [read_eq_some_iff.mpr ⟨path, find_of_mem hmem⟩]
    rfl

theorem nodup_stagedContents : ((stagedContents order staging).map Prod.fst).Nodup := by
  rw [stagedContents, List.map_filterMap]
  refine nodup_walkTopDown.filterMap fun path path' found hfound hfound' => ?_
  simp only [Option.map_map, Option.mem_def, Option.map_eq_some_iff, Function.comp_apply]
    at hfound hfound'
  obtain ⟨_, _, rfl⟩ := hfound
  obtain ⟨_, _, rfl⟩ := hfound'
  rfl

theorem stagedContents_perm :
    ((stagedContents order staging).map Prod.fst).Perm (filePaths staging) := by
  refine (List.perm_ext_iff_of_nodup nodup_stagedContents nodup_filePaths).mpr fun path => ?_
  rw [mem_filePaths, List.mem_map]
  constructor
  · rintro ⟨⟨path', content⟩, hmem, rfl⟩
    exact ⟨content, mem_stagedContents.mp hmem⟩
  · rintro ⟨content, hmem⟩
    exact ⟨_, mem_stagedContents.mpr hmem, rfl⟩

theorem mem_stagedFiles : path ∈ stagedFiles order staging ↔ path ∈ filePaths staging := by
  rw [stagedFiles, List.mem_filter, mem_walkTopDown, mem_filePaths]
  constructor
  · rintro ⟨hpath, hdir⟩
    obtain ⟨node, hmem, hfind⟩ := entry_of_mem_paths hpath
    cases node with
    | dir =>
      rw [isDirectory_iff.mpr (.inr ⟨path, hfind⟩)] at hdir
      exact absurd hdir (by simp)
    | file content => exact ⟨content, hmem⟩
  · rintro ⟨content, hmem⟩
    refine ⟨List.mem_map.mpr ⟨_, hmem, rfl⟩, ?_⟩
    rw [Bool.not_eq_true', Bool.eq_false_iff]
    intro hdir
    rcases isDirectory_iff.mp hdir with hnil | ⟨stored, hfind⟩
    · exact (staging.parent _ hmem).1 hnil
    · have hself : staging.find path = some (path, .file content) := find_of_mem hmem
      rw [hself] at hfind
      exact absurd hfind (by simp)

end Staged

end StylyMdm.Files
