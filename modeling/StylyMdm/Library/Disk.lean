import Mathlib
import StylyMdm.Library.FileTree

/-!
# A file system that folds names

A directory with what is below it, on a file system that compares names after folding them: the
identity for one with exact names, the folding of case for one that ignores case. A path is the list
of its names and the empty path the directory itself. Every entry keeps the spelling it was created
with; a path resolves to the entry that is the same after folding, and a new entry gets its own
name below the stored spelling of its directory.

The operations are those of `java.io.File` where the tree allows them: `delete` of a file or an
empty directory, `mkdirs`, and the creation of a file in a directory. What stops an operation is
what stands in its way; there are no permissions, and the disk is never full.

A `Disk` carries its well-formedness: no two entries are the same after folding, and each lies in
a directory that is there. So a path resolves to at most one entry (`find_eq_some_iff`), what lies
below something that is there lies in directories (`find_above`), and nothing lies below a file
(`find_below_file`).

The lemmas come in the order of a proof about a program that writes a tree:

* resolving a path, in terms of the entries that are there;
* what is found after an entry was added or deleted (`find_add`, `find_delete`), and when a
  deletion succeeds (`delete_isSome_iff`);
* the spelling that the directories on a path have or get (`spell`, `map_spell`);
* `mkdirs`, which succeeds unless a file is in the way (`mkdirs_isSome_iff`), and what it leaves
  (`Made`);
* the creation of a file (`create_isSome_iff`, `find_create`).

The last section makes a disk out of a tree of files (`toDisk`), for file systems with exact names.
-/

/-- What stands at a path. -/
inductive Node (β : Type*)
  | dir
  | file (content : β)
deriving DecidableEq, Repr

/-- Is the node a directory?. -/
def Node.isDir {β : Type*} : Node β → Bool
  | .dir => true
  | .file _ => false

/-- The entries below a directory: no two of them are the same after folding, and each lies in a
directory that is there. -/
structure Disk {α : Type*} (fold : α → α) (β : Type*) where
  entries : List (List α × Node β)
  nodup : (entries.map fun entry => entry.1.map fold).Nodup
  parent : ∀ entry ∈ entries, entry.1 ≠ [] ∧
    (entry.1.dropLast = [] ∨ (entry.1.dropLast, Node.dir) ∈ entries)

namespace Disk

variable {α β : Type*} [DecidableEq α] {fold : α → α}

/-- The entry a path resolves to. -/
def find (t : Disk fold β) (path : List α) : Option (List α × Node β) :=
  t.entries.find? fun entry => entry.1.map fold = path.map fold

/-- `File.isFile`. -/
def isFile (t : Disk fold β) (path : List α) : Bool :=
  match t.find path with
  | some (_, .file _) => true
  | _ => false

/-- `File.isDirectory`. -/
def isDirectory (t : Disk fold β) (path : List α) : Bool :=
  path.isEmpty || (t.find path).any fun entry => entry.2.isDir

/-- `File.exists`. -/
def present (t : Disk fold β) (path : List α) : Bool :=
  path.isEmpty || (t.find path).isSome

/-- The content of a file. -/
def read (t : Disk fold β) (path : List α) : Option β :=
  match t.find path with
  | some (_, .file content) => some content
  | _ => none

/-- Is there a directory with exactly this stored spelling? -/
def storesDir (t : Disk fold β) (path : List α) : Bool :=
  t.entries.any fun entry => decide (entry.1 = path) && entry.2.isDir

omit [DecidableEq α] in
theorem mem_of_isDir {t : Disk fold β} {entry : List α × Node β} (h : entry ∈ t.entries)
    (hdir : entry.2.isDir) : (entry.1, Node.dir) ∈ t.entries := by
  obtain ⟨path, node⟩ := entry
  cases node with
  | dir => exact h
  | file content => exact absurd hdir (by simp [Node.isDir])

theorem storesDir_iff {t : Disk fold β} {path : List α} :
    t.storesDir path ↔ (path, Node.dir) ∈ t.entries := by
  rw [storesDir, List.any_eq_true]
  constructor
  · rintro ⟨entry, hmem, hentry⟩
    rw [Bool.and_eq_true, decide_eq_true_iff] at hentry
    exact hentry.1 ▸ mem_of_isDir hmem hentry.2
  · exact fun hmem => ⟨_, hmem, by simp [Node.isDir]⟩

/-- A new entry below a directory that is there, given by its stored spelling. -/
def add (t : Disk fold β) (path : List α) (node : Node β) : Option (Disk fold β) :=
  if h : path ≠ [] ∧ (t.find path).isNone ∧
      (path.dropLast = [] ∨ t.storesDir path.dropLast) then
    some
      { entries := t.entries ++ [(path, node)]
        nodup := by
          rw [List.map_append, List.map_singleton]
          refine List.nodup_append.mpr ⟨t.nodup, List.nodup_singleton _, ?_⟩
          intro folded hfolded last hlast heq
          obtain ⟨entry, hentry, rfl⟩ := List.mem_map.mp hfolded
          have hnone := List.find?_eq_none.mp (Option.isNone_iff_eq_none.mp h.2.1) entry hentry
          rw [List.mem_singleton.mp hlast] at heq
          exact hnone (decide_eq_true heq)
        parent := by
          intro entry hentry
          rcases List.mem_append.mp hentry with hentry | hentry
          · obtain ⟨hne, hparent⟩ := t.parent entry hentry
            exact ⟨hne, hparent.imp_right (List.mem_append_left _)⟩
          · rw [List.mem_singleton.mp hentry]
            exact ⟨h.1, h.2.2.imp_right fun hdir =>
              List.mem_append_left _ (storesDir_iff.mp hdir)⟩ }
  else none

/-- `File.delete`: of a file, or of a directory that is empty. -/
def delete (t : Disk fold β) (path : List α) : Option (Disk fold β) :=
  match t.find path with
  | none => none
  | some entry =>
    if h : ∀ other ∈ t.entries, other.1.dropLast ≠ entry.1 then
      some
        { entries := t.entries.filter fun other => other.1 ≠ entry.1
          nodup := t.nodup.sublist (List.filter_sublist.map _)
          parent := by
            intro other hother
            have hmem := (List.mem_filter.mp hother).1
            obtain ⟨hne, hparent⟩ := t.parent other hmem
            refine ⟨hne, hparent.imp_right fun hdir => List.mem_filter.mpr ⟨hdir, ?_⟩⟩
            exact decide_eq_true (h other hmem) }
    else none

/-- The stored spelling of a directory, and the one it gets from `mkdirs` when it is not there. The
path is given from its end. -/
def spellRev (t : Disk fold β) : List α → List α
  | [] => []
  | name :: above =>
    match t.find (name :: above).reverse with
    | some entry => entry.1
    | none => t.spellRev above ++ [name]

/-- The path as the disk spells it. -/
def spell (t : Disk fold β) (path : List α) : List α := t.spellRev path.reverse

/-- `File.mkdirs`: the directory above first, then the directory itself. -/
def mkdirsRev (t : Disk fold β) : List α → Option (Disk fold β)
  | [] => some t
  | name :: above =>
    match t.find (name :: above).reverse with
    | some (_, .dir) => some t
    | some (_, .file _) => none
    | none =>
      (t.mkdirsRev above).bind fun made => made.add (made.spell above.reverse ++ [name]) .dir

/-- The directories of the path, made where they are missing. -/
def mkdirs (t : Disk fold β) (path : List α) : Option (Disk fold β) := t.mkdirsRev path.reverse

/-- A new file in a directory that is there. -/
def create (t : Disk fold β) (path : List α) (content : β) : Option (Disk fold β) :=
  match path.getLast? with
  | none => none
  | some name =>
    if t.isDirectory path.dropLast then
      t.add (t.spell path.dropLast ++ [name]) (.file content)
    else none

/-- The stored spellings of what is directly below a directory, itself in its stored spelling. -/
def children (t : Disk fold β) (dir : List α) : List (List α) :=
  (t.entries.map Prod.fst).filter fun path => path.dropLast = dir

/-! ### Resolving a path -/

section Find

variable {t t' : Disk fold β} {path q : List α} {entry : List α × Node β} {node : Node β}

theorem find_eq_some_iff :
    t.find path = some entry ↔ entry ∈ t.entries ∧ entry.1.map fold = path.map fold := by
  constructor
  · intro h
    exact ⟨List.mem_of_find?_eq_some h, by simpa using List.find?_some h⟩
  · rintro ⟨hmem, hsame⟩
    rcases hfind : t.find path with _ | found
    · exact absurd (decide_eq_true hsame) (List.find?_eq_none.mp hfind entry hmem)
    · have hfound := List.mem_of_find?_eq_some hfind
      have hsame' : found.1.map fold = path.map fold := by
        simpa using List.find?_some hfind
      rw [List.inj_on_of_nodup_map t.nodup hfound hmem (hsame'.trans hsame.symm)]

theorem find_of_mem (h : entry ∈ t.entries) : t.find entry.1 = some entry :=
  find_eq_some_iff.mpr ⟨h, rfl⟩

theorem find_congr (h : path.map fold = q.map fold) : t.find path = t.find q := by
  rw [find, find, h]

theorem find_nil : t.find [] = none := by
  rcases h : t.find [] with _ | entry
  · rfl
  · obtain ⟨hmem, hsame⟩ := find_eq_some_iff.mp h
    exact absurd (List.map_eq_nil_iff.mp hsame) (t.parent entry hmem).1

/-- The directory of an entry. -/
theorem find_above {above : List α} {name : α} (h : t.find (above ++ [name]) = some entry) :
    (above = [] ∧ entry.1.dropLast = []) ∨ t.find above = some (entry.1.dropLast, .dir) := by
  obtain ⟨hmem, hsame⟩ := find_eq_some_iff.mp h
  have hdrop : entry.1.dropLast.map fold = above.map fold := by
    rw [List.map_dropLast, hsame, List.map_append, List.map_singleton, List.dropLast_concat]
  rcases (t.parent entry hmem).2 with hnil | hdir
  · rw [hnil, List.map_nil] at hdrop
    exact .inl ⟨List.map_eq_nil_iff.mp hdrop.symm, hnil⟩
  · exact .inr (find_eq_some_iff.mpr ⟨hdir, hdrop⟩)

/-- Everything on the way to an entry is a directory. -/
theorem find_of_prefix (h : t.find path = some entry) (hq : q ≠ []) (hpre : q <+: path)
    (hne : q ≠ path) : ∃ stored, t.find q = some (stored, .dir) := by
  induction path using List.reverseRecOn generalizing entry with
  | nil => exact absurd (List.prefix_nil.mp hpre) hq
  | append_singleton above name ih =>
    rcases List.prefix_concat_iff.mp hpre with heq | hpre
    · exact absurd heq hne
    · rcases find_above h with ⟨rfl, -⟩ | habove
      · exact absurd (List.prefix_nil.mp hpre) hq
      · by_cases heq : q = above
        · exact ⟨_, heq ▸ habove⟩
        · exact ih habove hpre heq

end Find

/-! ### New and deleted entries -/

section Change

variable {t t' : Disk fold β} {path q : List α} {entry : List α × Node β} {node : Node β}

theorem exists_add (hne : path ≠ []) (hnew : t.find path = none)
    (hparent : path.dropLast = [] ∨ (path.dropLast, Node.dir) ∈ t.entries) :
    ∃ t', t.add path node = some t' := by
  rw [add, dif_pos ⟨hne, by rw [hnew]; rfl, hparent.imp_right storesDir_iff.mpr⟩]
  exact ⟨_, rfl⟩

theorem find_add (h : t.add path node = some t') (q : List α) :
    t'.find q = if q.map fold = path.map fold then some (path, node) else t.find q := by
  rw [add] at h
  split at h
  · rename_i hvalid
    obtain rfl := Option.some.inj h
    rw [find, List.find?_append]
    split
    · rename_i hsame
      have hnone : t.find q = none :=
        (find_congr hsame).trans (Option.isNone_iff_eq_none.mp hvalid.2.1)
      rw [find] at hnone
      rw [hnone, Option.none_or]
      simp [hsame]
    · rename_i hdiff
      rw [find, List.find?_singleton]
      simp [Ne.symm hdiff]
  · exact absurd h (by simp)

theorem find_delete (h : t.delete path = some t') (q : List α) :
    t'.find q = if q.map fold = path.map fold then none else t.find q := by
  rw [delete] at h
  split at h
  · exact absurd h (by simp)
  · rename_i entry hfind
    obtain ⟨hmem, hsame⟩ := find_eq_some_iff.mp hfind
    split at h
    · obtain rfl := Option.some.inj h
      split
      · rename_i hq
        refine List.find?_eq_none.mpr fun other hother hfold => ?_
        obtain ⟨hmem', hother⟩ := List.mem_filter.mp hother
        have hfold : other.1.map fold = q.map fold := by simpa using hfold
        have hsame' := hfold.trans (hq.trans hsame.symm)
        exact of_decide_eq_true hother
          (congrArg Prod.fst (List.inj_on_of_nodup_map t.nodup hmem' hmem hsame'))
      · rename_i hq
        rcases hold : t.find q with _ | found
        · refine List.find?_eq_none.mpr fun other hother => ?_
          exact List.find?_eq_none.mp hold other (List.mem_filter.mp hother).1
        · obtain ⟨hfound, hfold⟩ := find_eq_some_iff.mp hold
          refine find_eq_some_iff.mpr ⟨List.mem_filter.mpr ⟨hfound, ?_⟩, hfold⟩
          rw [decide_eq_true_iff]
          intro heq
          rw [heq, hsame] at hfold
          exact hq hfold.symm
    · exact absurd h (by simp)

/-- What lies directly below an entry. -/
theorem exists_child_iff (hfind : t.find path = some entry) :
    (∃ other ∈ t.entries, other.1.dropLast = entry.1) ↔ ∃ name, t.find (path ++ [name]) ≠ none := by
  obtain ⟨hmem, hsame⟩ := find_eq_some_iff.mp hfind
  constructor
  · rintro ⟨other, hother, hdrop⟩
    obtain hnil | ⟨above, name, hpath⟩ := List.eq_nil_or_concat other.1
    · exact absurd hnil (t.parent other hother).1
    · rw [hpath, List.concat_eq_append, List.dropLast_concat] at hdrop
      refine ⟨name, ?_⟩
      have hchild : t.find (path ++ [name]) = some other := by
        refine find_eq_some_iff.mpr ⟨hother, ?_⟩
        rw [hpath, List.concat_eq_append, List.map_append, List.map_append, hdrop, hsame]
      rw [hchild]
      exact Option.some_ne_none other
  · rintro ⟨name, hname⟩
    obtain ⟨other, hother⟩ := Option.ne_none_iff_exists'.mp hname
    refine ⟨other, (find_eq_some_iff.mp hother).1, ?_⟩
    rcases find_above hother with ⟨rfl, -⟩ | habove
    · rw [find_nil] at hfind
      exact absurd hfind (by simp)
    · rw [hfind, Option.some.injEq] at habove
      rw [habove]

/-- When `delete` succeeds. -/
theorem delete_isSome_iff (hfind : t.find path = some entry) :
    (∃ t', t.delete path = some t') ↔ ∀ name, t.find (path ++ [name]) = none := by
  have hchild := (exists_child_iff hfind).not
  push Not at hchild
  rw [delete, hfind]
  simp only
  split
  · rename_i h
    exact ⟨fun _ => hchild.mp h, fun _ => ⟨_, rfl⟩⟩
  · rename_i h
    exact ⟨fun hsome => absurd hsome (by simp), fun hnone => absurd (hchild.mpr hnone) h⟩

/-- There is nothing below a file. -/
theorem find_below_file {stored : List α} {content : β}
    (hfind : t.find path = some (stored, .file content)) (name : α) :
    t.find (path ++ [name]) = none := by
  rcases h : t.find (path ++ [name]) with _ | other
  · rfl
  · rcases find_above h with ⟨rfl, -⟩ | habove
    · rw [find_nil] at hfind
      exact absurd hfind (by simp)
    · rw [hfind] at habove
      exact absurd habove (by simp)

end Change

/-! ### The spelling of a directory -/

section Spell

variable {t t' : Disk fold β} {path q above : List α} {name : α} {entry : List α × Node β}

@[simp] theorem spell_nil : t.spell [] = [] := rfl

theorem spell_concat :
    t.spell (above ++ [name]) =
      match t.find (above ++ [name]) with
      | some entry => entry.1
      | none => t.spell above ++ [name] := by
  rw [spell, List.reverse_append, List.reverse_singleton, List.singleton_append, spellRev,
    List.reverse_cons, List.reverse_reverse]
  rfl

theorem spell_of_find (h : t.find path = some entry) : t.spell path = entry.1 := by
  obtain rfl | ⟨above, name, rfl⟩ := List.eq_nil_or_concat path
  · rw [find_nil] at h
    exact absurd h (by simp)
  · rw [List.concat_eq_append] at h ⊢
    rw [spell_concat, h]

theorem map_spell : (t.spell path).map fold = path.map fold := by
  induction path using List.reverseRecOn with
  | nil => rfl
  | append_singleton above name ih =>
    rw [spell_concat]
    split
    · rename_i entry hfind
      exact (find_eq_some_iff.mp hfind).2
    · rw [List.map_append, ih, List.map_append]

/-- A directory is or gets spelled as it is named exactly when nothing on the way to it is stored
in another spelling. -/
theorem spell_eq_self_iff : t.spell path = path ↔
    ∀ q, q ≠ [] → q <+: path → ∀ entry, t.find q = some entry → entry.1 = q := by
  induction path using List.reverseRecOn with
  | nil =>
    refine ⟨fun _ q hq hpre => absurd (List.prefix_nil.mp hpre) hq, fun _ => rfl⟩
  | append_singleton above name ih =>
    constructor
    · intro hspell q hq hpre entry hentry
      rcases List.prefix_concat_iff.mp hpre with rfl | hpre
      · rw [← spell_of_find hentry]
        exact hspell
      · refine ih.mp ?_ q hq hpre entry hentry
        rw [spell_concat] at hspell
        split at hspell
        · rename_i found hfound
          rcases find_above hfound with ⟨rfl, -⟩ | habove
          · rfl
          · rw [spell_of_find habove, hspell, List.dropLast_concat]
        · exact List.append_cancel_right hspell
    · intro h
      have habove := ih.mpr fun q hq hpre => h q hq (hpre.trans (List.prefix_append _ _))
      rw [spell_concat]
      split
      · rename_i entry hentry
        exact h _ (by simp) (List.prefix_refl _) entry hentry
      · rw [habove]

end Spell

/-! ### Making directories -/

section Mkdirs

variable {t t' : Disk fold β} {path q above : List α} {name : α}

theorem mkdirs_concat :
    t.mkdirs (above ++ [name]) =
      match t.find (above ++ [name]) with
      | some (_, .dir) => some t
      | some (_, .file _) => none
      | none => (t.mkdirs above).bind fun made => made.add (made.spell above ++ [name]) .dir := by
  rw [mkdirs, List.reverse_append, List.reverse_singleton, List.singleton_append, mkdirsRev,
    List.reverse_cons, List.reverse_reverse]
  rfl

/-- What `mkdirs` leaves: everything on the way to the directory is a directory in its spelling, and
the rest is as it was. -/
structure Made (t t' : Disk fold β) (path : List α) : Prop where
  found : ∀ q, q ≠ [] → q <+: path → t'.find q = some (t.spell q, .dir)
  frame : ∀ q, (∀ r, r ≠ [] → r <+: path → q.map fold ≠ r.map fold) → t'.find q = t.find q

/-- A directory that is there is made already. -/
theorem Made.refl (h : path = [] ∨ ∃ stored, t.find path = some (stored, .dir)) :
    Made t t path where
  found := by
    intro q hq hpre
    rcases h with rfl | ⟨stored, h⟩
    · exact absurd (List.prefix_nil.mp hpre) hq
    · by_cases heq : q = path
      · rw [heq, spell_of_find h]
        exact h
      · obtain ⟨stored', hstored⟩ := find_of_prefix h hq hpre heq
        rw [spell_of_find hstored]
        exact hstored
  frame := fun _ _ => rfl

/-- The directory itself after `mkdirs`, and its spelling. -/
theorem Made.spell_eq (h : Made t t' path) : t'.spell path = t.spell path := by
  by_cases hnil : path = []
  · rw [hnil]
    rfl
  · rw [spell_of_find (h.found path hnil (List.prefix_refl _))]

theorem Made.storesDir (h : Made t t' path) :
    t'.spell path = [] ∨ (t'.spell path, Node.dir) ∈ t'.entries := by
  by_cases hnil : path = []
  · exact .inl (by rw [hnil]; rfl)
  · rw [h.spell_eq]
    exact .inr (find_eq_some_iff.mp (h.found path hnil (List.prefix_refl _))).1

omit [DecidableEq α] in
/-- A longer path is not one of those on the way to the directory. -/
theorem map_concat_ne_of_leading {r : List α} (h : r <+: above) :
    (above ++ [name]).map fold ≠ r.map fold := by
  intro heq
  have hlength := congrArg List.length heq
  rw [List.length_map, List.length_map, List.length_append, List.length_singleton] at hlength
  have := h.length_le
  omega

theorem made_of_mkdirs (h : t.mkdirs path = some t') : Made t t' path := by
  induction path using List.reverseRecOn generalizing t' with
  | nil =>
    obtain rfl := Option.some.inj h
    exact .refl (.inl rfl)
  | append_singleton above name ih =>
    rw [mkdirs_concat] at h
    split at h
    · rename_i stored hfind
      obtain rfl := Option.some.inj h
      exact .refl (.inr ⟨stored, hfind⟩)
    · exact absurd h (by simp)
    · rename_i hfind
      obtain ⟨made, hmade, hadd⟩ := Option.bind_eq_some_iff.mp h
      have hmade := ih hmade
      have hfold : (made.spell above ++ [name]).map fold = (above ++ [name]).map fold := by
        rw [List.map_append, map_spell, List.map_append]
      have hfind' : ∀ q, t'.find q = if q.map fold = (above ++ [name]).map fold then
          some (made.spell above ++ [name], .dir) else made.find q := by
        intro q
        rw [find_add hadd q, hfold]
      have hspell : t.spell (above ++ [name]) = made.spell above ++ [name] := by
        rw [spell_concat, hfind, hmade.spell_eq]
      refine ⟨fun q hq hpre => ?_, fun q hframe => ?_⟩
      · rcases List.prefix_concat_iff.mp hpre with rfl | hpre
        · rw [hfind', if_pos rfl, hspell]
        · rw [hfind', if_neg (map_concat_ne_of_leading hpre).symm]
          exact hmade.found q hq hpre
      · rw [hfind', if_neg (hframe _ (by simp) (List.prefix_refl _))]
        exact hmade.frame q fun r hr hpre =>
          hframe r hr (hpre.trans (List.prefix_append _ _))

/-- `mkdirs` succeeds exactly when no file is in the way. -/
theorem mkdirs_isSome_iff : (∃ t', t.mkdirs path = some t') ↔
    ∀ q, q ≠ [] → q <+: path → ∀ stored content, t.find q ≠ some (stored, .file content) := by
  constructor
  · rintro ⟨t', h⟩ q hq hpre stored content hfile
    -- what was a file before is one still, unless `mkdirs` has failed
    induction path using List.reverseRecOn generalizing t' with
    | nil => exact hq (List.prefix_nil.mp hpre)
    | append_singleton above name ih =>
      rw [mkdirs_concat] at h
      split at h
      · rename_i stored' hfind
        by_cases heq : q = above ++ [name]
        · rw [heq, hfind] at hfile
          exact absurd hfile (by simp)
        · obtain ⟨stored'', hdir⟩ := find_of_prefix hfind hq hpre heq
          rw [hdir] at hfile
          exact absurd hfile (by simp)
      · exact absurd h (by simp)
      · rename_i hfind
        obtain ⟨made, hmade, -⟩ := Option.bind_eq_some_iff.mp h
        rcases List.prefix_concat_iff.mp hpre with rfl | hpre
        · rw [hfind] at hfile
          exact absurd hfile (by simp)
        · exact ih made hmade hpre
  · intro h
    induction path using List.reverseRecOn with
    | nil => exact ⟨t, rfl⟩
    | append_singleton above name ih =>
      rw [mkdirs_concat]
      split
      · exact ⟨t, rfl⟩
      · rename_i stored content hfind
        exact absurd hfind (h _ (by simp) (List.prefix_refl _) stored content)
      · rename_i hfind
        obtain ⟨made, hmkdirs⟩ := ih fun q hq hpre =>
          h q hq (hpre.trans (List.prefix_append _ _))
        have hmade := made_of_mkdirs hmkdirs
        rw [hmkdirs, Option.bind_some]
        refine exists_add (by simp) ?_ ?_
        · have hfold : (made.spell above ++ [name]).map fold = (above ++ [name]).map fold := by
            rw [List.map_append, map_spell, List.map_append]
          rw [find_congr hfold, hmade.frame _ fun r _ hpre => map_concat_ne_of_leading hpre]
          exact hfind
        · rw [List.dropLast_concat]
          exact hmade.storesDir

end Mkdirs

/-! ### Creating a file -/

section Create

variable {t t' : Disk fold β} {path q above : List α} {name : α} {content : β}

theorem isDirectory_iff :
    t.isDirectory path ↔ path = [] ∨ ∃ stored, t.find path = some (stored, .dir) := by
  rw [isDirectory, Bool.or_eq_true, List.isEmpty_iff, Option.any_eq_true]
  refine or_congr_right ⟨?_, ?_⟩
  · rintro ⟨⟨stored, node⟩, hfind, hdir⟩
    cases node with
    | dir => exact ⟨stored, hfind⟩
    | file content => exact absurd hdir (by simp [Node.isDir])
  · rintro ⟨stored, hfind⟩
    exact ⟨_, hfind, rfl⟩

theorem isFile_iff :
    t.isFile path ↔ ∃ stored content, t.find path = some (stored, .file content) := by
  rw [isFile]
  split
  · rename_i stored content hfind
    exact ⟨fun _ => ⟨stored, content, hfind⟩, fun _ => rfl⟩
  · rename_i hnot
    exact ⟨fun h => absurd h (by simp), fun ⟨stored, content, hfind⟩ => absurd hfind (hnot _ _)⟩

theorem read_eq_some_iff :
    t.read path = some content ↔ ∃ stored, t.find path = some (stored, .file content) := by
  rw [read]
  split
  · rename_i stored content' hfind
    rw [hfind]
    simp
  · rename_i hnot
    exact ⟨fun h => absurd h (by simp), fun ⟨stored, hfind⟩ => absurd hfind (hnot _ _)⟩

/-- A file can be created in a directory in which there is nothing of that name. -/
theorem create_isSome_iff (hnew : t.find (above ++ [name]) = none) :
    (∃ t', t.create (above ++ [name]) content = some t') ↔ t.isDirectory above := by
  rw [create, List.getLast?_concat]
  simp only [List.dropLast_concat]
  split
  · rename_i hdir
    refine ⟨fun _ => hdir, fun _ => exists_add (by simp) ?_ ?_⟩
    · have hfold : (t.spell above ++ [name]).map fold = (above ++ [name]).map fold := by
        rw [List.map_append, map_spell, List.map_append]
      rw [find_congr hfold]
      exact hnew
    · rw [List.dropLast_concat]
      exact (Made.refl (isDirectory_iff.mp hdir)).storesDir
  · rename_i hdir
    exact ⟨fun h => absurd h (by simp), fun h => absurd h hdir⟩

theorem find_create (h : t.create (above ++ [name]) content = some t') (q : List α) :
    t'.find q = if q.map fold = (above ++ [name]).map fold then
      some (t.spell above ++ [name], .file content) else t.find q := by
  rw [create, List.getLast?_concat] at h
  simp only [List.dropLast_concat] at h
  split at h
  · rw [find_add h q, List.map_append, map_spell, List.map_append]
  · exact absurd h (by simp)

end Create

end Disk

/-! ### The disk of a tree of files -/

namespace FileTree

variable {α β : Type*} [DecidableEq α] (t : FileTree α β)

/-- The directories on the way to the files. -/
def dirsOfFiles : List (List α) := (t.files.flatMap fun file => ancestors file.1).dedup

variable {t} in
theorem mem_dirsOfFiles {dir : List α} :
    dir ∈ t.dirsOfFiles ↔ ∃ file ∈ t.files, dir ≠ [] ∧ dir <+: file.1 ∧ dir ≠ file.1 := by
  rw [dirsOfFiles, List.mem_dedup, List.mem_flatMap]
  simp only [mem_ancestors]

variable {t} in
/-- A directory on the way to something is empty or on the way to a file. -/
theorem dropLast_mem_dirsOfFiles {file : List α × β} {path : List α} (h : file ∈ t.files)
    (hne : path ≠ []) (hpre : path <+: file.1) :
    path.dropLast = [] ∨ path.dropLast ∈ t.dirsOfFiles := by
  by_cases hnil : path.dropLast = []
  · exact .inl hnil
  · refine .inr (mem_dirsOfFiles.mpr ⟨file, h, hnil, (List.dropLast_prefix _).trans hpre, ?_⟩)
    intro heq
    have hlen := hpre.length_le
    have hpos := List.length_pos_iff.mpr hne
    rw [← heq, List.length_dropLast] at hlen
    omega

/-- The files with the directories on the way to them, on a file system with exact names. -/
def toDisk : Disk (id : α → α) β where
  entries := (t.dirsOfFiles.map fun dir => (dir, Node.dir)) ++
    t.files.map fun file => (file.1, Node.file file.2)
  nodup := by
    simp only [List.map_id_fun, id_eq, List.map_append, List.map_map, Function.comp_def]
    rw [List.map_id']
    refine List.nodup_append.mpr ⟨List.nodup_dedup _, t.nodup, ?_⟩
    rintro dir hdir path hpath rfl
    obtain ⟨file, hfile, hne, hpre, hother⟩ := mem_dirsOfFiles.mp hdir
    obtain ⟨file', hfile', rfl⟩ := List.mem_map.mp hpath
    exact hother (eq_of_leading hfile' hfile hpre)
  parent := by
    intro entry hentry
    have hdir : ∀ {path : List α}, path ∈ t.dirsOfFiles → (path, Node.dir (β := β)) ∈
        (t.dirsOfFiles.map fun dir => (dir, Node.dir)) ++
          t.files.map fun file => (file.1, Node.file file.2) :=
      fun hmem => List.mem_append_left _ (List.mem_map_of_mem hmem)
    rcases List.mem_append.mp hentry with hentry | hentry
    · obtain ⟨dir, hmem, rfl⟩ := List.mem_map.mp hentry
      obtain ⟨file, hfile, hne, hpre, -⟩ := mem_dirsOfFiles.mp hmem
      exact ⟨hne, (dropLast_mem_dirsOfFiles hfile hne hpre).imp_right hdir⟩
    · obtain ⟨file, hfile, rfl⟩ := List.mem_map.mp hentry
      have hne := (t.disjoint file hfile).1
      exact ⟨hne, (dropLast_mem_dirsOfFiles hfile hne (List.prefix_refl _)).imp_right hdir⟩

variable {t} in
theorem read_toDisk (path : List α) : t.toDisk.read path = t.read path := by
  refine Option.ext fun content => ?_
  rw [Disk.read_eq_some_iff, FileTree.read_eq_some_iff]
  simp only [Disk.find_eq_some_iff, List.map_id]
  constructor
  · rintro ⟨stored, hmem, rfl⟩
    rcases List.mem_append.mp hmem with hmem | hmem
    · obtain ⟨dir, -, hdir⟩ := List.mem_map.mp hmem
      exact absurd (congrArg Prod.snd hdir) (by simp)
    · obtain ⟨file, hfile, heq⟩ := List.mem_map.mp hmem
      rw [Prod.mk.injEq, Node.file.injEq] at heq
      rwa [← heq.1, ← heq.2]
  · intro hmem
    exact ⟨path, List.mem_append_right _ (List.mem_map.mpr ⟨_, hmem, rfl⟩), rfl⟩

end FileTree
