import StylyMdm.Library.Dict

/-!
# A directory and the disk below it

A directory as the processes see it, and what of it is on the disk. Renames and removals reach the
disk at some time, at the latest when the directory is fsynced; the content of a file is safe once
the file is fsynced. The model is the usual one of a journalling file system: single changes of a
directory are atomic, but their order on the disk is not the order they were made in.

After a crash every name is found in one of the two states (`Directory.AfterCrash`), independently
of the other names, and a file that was never fsynced may have any content (`Survives`). So what is
in both states is found again (`Directory.Holds.afterCrash`), and nothing more can be relied on.

`Holds` is the statement that proofs carry through a run: a file with this content is seen under
the name, and if `fsynced` it is on the disk as well. It survives the changes of other names
(`Holds.put`, `Holds.unlink`), and an fsync of the directory gives it for everything that is seen
(`holds_sync`). The instance at the end decides what may be found after a crash,
for runs on concrete directories.
-/

/-- A file: its content, and whether it was fsynced since it was written. -/
structure File (α : Type) where
  content : α
  synced : Bool
deriving DecidableEq

namespace File

variable {α : Type} {file : File α} {after : Option (File α)}

/-- What a crash may make of a file, or of its absence. -/
def Survives (before after : Option (File α)) : Prop :=
  match before, after with
  | none, none => True
  | some file, some file' => file.synced = true → file' = file
  | _, _ => False

instance [DecidableEq α] (before after : Option (File α)) : Decidable (Survives before after) :=
  match before, after with
  | none, none => inferInstanceAs (Decidable True)
  | some file, some file' => inferInstanceAs (Decidable (file.synced = true → file' = file))
  | none, some _ => inferInstanceAs (Decidable False)
  | some _, none => inferInstanceAs (Decidable False)

theorem Survives.eq (h : Survives (some file) after) (hsynced : file.synced = true) :
    after = some file := by
  cases after with
  | none => exact h.elim
  | some file' => exact congrArg some (h hsynced)

end File

/-- What is seen, and what is on the disk. -/
structure Directory (κ α : Type) where
  entries : Dict κ (File α)
  disk : Dict κ (File α)

namespace Directory

variable {κ α : Type} [DecidableEq κ]

/-- A file is renamed to a name of the directory. -/
def put (d : Directory κ α) (name : κ) (file : File α) : Directory κ α :=
  { d with entries := d.entries.set name file }

/-- A name is removed; the file lives on while another name has it. -/
def unlink (d : Directory κ α) (name : κ) : Directory κ α :=
  { d with entries := d.entries.del name }

/-- The directory is fsynced. -/
def sync (d : Directory κ α) : Directory κ α := { d with disk := d.entries }

/-- What may be found after a crash. -/
def AfterCrash (d : Directory κ α) (found : Dict κ (File α)) : Prop :=
  ∀ name, File.Survives (d.entries.get name) (found.get name) ∨
    File.Survives (d.disk.get name) (found.get name)

/-- Everything is found that was seen. -/
def NothingLost (d : Directory κ α) (found : Dict κ (File α)) : Prop :=
  ∀ name, File.Survives (d.entries.get name) (found.get name)

/-- The file is seen under the name, and if `fsynced` also on the disk. -/
structure Holds (fsynced : Bool) (d : Directory κ α) (name : κ) (file : File α) : Prop where
  entry : d.entries.get name = some file
  disk : fsynced = true → d.disk.get name = some file

variable {d : Directory κ α} {name name' : κ} {file file' : File α} {fsynced : Bool}
  {found : Dict κ (File α)}

theorem Holds.put (h : d.Holds fsynced name file) (hne : name ≠ name') :
    (d.put name' file').Holds fsynced name file where
  entry := by rw [Directory.put, Dict.get_set, if_neg hne, h.entry]
  disk := h.disk

theorem Holds.unlink (h : d.Holds fsynced name file) (hne : name ≠ name') :
    (d.unlink name').Holds fsynced name file where
  entry := by rw [Directory.unlink, Dict.get_del, if_neg hne, h.entry]
  disk := h.disk

theorem holds_sync (h : d.entries.get name = some file) : d.sync.Holds fsynced name file :=
  ⟨h, fun _ => h⟩

/-- A file that was fsynced, in a directory that was fsynced since, is found after a crash. -/
theorem Holds.afterCrash (h : d.Holds fsynced name file) (hfile : file.synced = true)
    (hcrash : d.AfterCrash found) (hlost : fsynced = true ∨ d.NothingLost found) :
    found.get name = some file := by
  have hentry : File.Survives (some file) (found.get name) := by
    rcases hlost with hfsynced | hlost
    · rcases hcrash name with hfound | hfound
      · exact h.entry ▸ hfound
      · exact h.disk hfsynced ▸ hfound
    · exact h.entry ▸ hlost name
  exact hentry.eq hfile

/-! ### Deciding what may be found -/

theorem get_eq_none {d : Dict κ (File α)} (h : name ∉ d.rows.map Prod.fst) :
    d.get name = none := by
  rw [Dict.get, Option.map_eq_none_iff, Table.find?_eq_none]
  rintro item hitem rfl
  exact h (List.mem_map_of_mem hitem)

variable [DecidableEq α]

/-- Names that are nowhere need not be looked at. -/
instance (d : Directory κ α) (found : Dict κ (File α)) : Decidable (d.AfterCrash found) :=
  decidable_of_iff
    (∀ name ∈ (d.entries.rows ++ d.disk.rows ++ found.rows).map Prod.fst,
      File.Survives (d.entries.get name) (found.get name) ∨
        File.Survives (d.disk.get name) (found.get name)) <| by
    refine ⟨fun h name => ?_, fun h name _ => h name⟩
    by_cases hname : name ∈ (d.entries.rows ++ d.disk.rows ++ found.rows).map Prod.fst
    · exact h name hname
    · rw [List.map_append, List.mem_append, List.map_append, List.mem_append, not_or,
        not_or] at hname
      rw [get_eq_none hname.1.1, get_eq_none hname.2]
      exact .inl trivial

instance (d : Directory κ α) (found : Dict κ (File α)) : Decidable (d.NothingLost found) :=
  decidable_of_iff
    (∀ name ∈ (d.entries.rows ++ found.rows).map Prod.fst,
      File.Survives (d.entries.get name) (found.get name)) <| by
    refine ⟨fun h name => ?_, fun h name _ => h name⟩
    by_cases hname : name ∈ (d.entries.rows ++ found.rows).map Prod.fst
    · exact h name hname
    · rw [List.map_append, List.mem_append, not_or] at hname
      rw [get_eq_none hname.1, get_eq_none hname.2]
      trivial

end Directory
