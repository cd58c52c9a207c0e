import StylyMdm.Library.Table

/-!
# Dictionaries

A dictionary with insertion order, as a table of items. Assignment to a key that is there keeps the
place of the item, as the dictionaries of Python do: a key that is deleted and assigned again goes
to the end, and one that is only assigned again stays where it was.

That no two items have the same key is not a statement about the operations: it is the constraint
of the table (`Library.Table`), which a `Dict` carries. The three lemmas say what is found after an
assignment and after a deletion; with `mem_iff` nothing else is needed to reason about a dictionary
without looking at the order of its items.
-/

/-- Its items in insertion order, no two of which have the same key. -/
abbrev Dict (κ α : Type) := Table (Prod.fst : κ × α → κ)

namespace Dict

variable {κ α : Type} [DecidableEq κ]

/-- The value under a key. -/
def get (d : Dict κ α) (k : κ) : Option α := (d.find? k).map Prod.snd

/-- `d[k] = v`. The item keeps its place. -/
def set (d : Dict κ α) (k : κ) (v : α) : Dict κ α :=
  d.upsert (k, v) (fun item => (item.1, v)) fun _ => rfl

/-- `del d[k]`. -/
def del (d : Dict κ α) (k : κ) : Dict κ α := d.delete fun item => item.1 = k

variable {d : Dict κ α} {k k' : κ} {v : α}

@[simp] theorem get_empty (k : κ) : get (∅ : Dict κ α) k = none := rfl

theorem get_set : (d.set k v).get k' = if k' = k then some v else d.get k' := by
  rw [get, set, Table.find?_upsert]
  by_cases hk : k' = k
  · rw [if_pos hk, if_pos hk]
    rcases d.find? k' with _ | item <;> rfl
  · rw [if_neg hk, if_neg hk, get]

theorem get_del : (d.del k).get k' = if k' = k then none else d.get k' := by
  rw [get, del, Table.find?_delete, get]
  rcases hfind : d.find? k' with _ | item
  · simp
  · have hkey : item.1 = k' := Table.key_of_find? hfind
    by_cases hk : k' = k
    · simp [hkey, hk]
    · simp [Option.filter_some, hkey, hk]

theorem mem_iff : (k, v) ∈ d ↔ d.get k = some v := by
  rw [get, Option.map_eq_some_iff]
  constructor
  · exact fun h => ⟨(k, v), Table.find?_of_mem h, rfl⟩
  · rintro ⟨item, hfind, rfl⟩
    rw [← Table.key_of_find? hfind]
    exact Table.mem_of_find? hfind

end Dict
