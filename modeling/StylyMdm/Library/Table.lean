import Mathlib

/-!
# Keyed tables

A `Table key` is a finite list of rows in which no two rows share a value of `key`: the
primary-key constraint is a field of the structure, so a table that breaks it cannot be
built. The operations are the ones a relational store offers — look up, insert, update the
rows that satisfy a predicate, delete, and insert-or-update — and each comes with the
equation for `find?` and for membership. Later proofs read tables only through these
equations.

An insertion of a key that is there fails, as it does in a store (`insert?_eq_some`); an update
keeps the keys by construction, since the new row is given the key of the old one; and after an
insert-or-update exactly the row under its key has changed (`find?_upsert`). Two tables with the
same rows are equal (`ext_rows`), because the constraint is a proposition.

The order of the rows is insertion order. It is visible only through `rows`, for queries that sort.
-/

/-- Rows of type `α` in insertion order, no two of which agree on `key`. -/
structure Table {κ α : Type*} (key : α → κ) where
  rows : List α
  nodup : (rows.map key).Nodup

namespace Table

variable {κ α : Type*} {key : α → κ}

instance : Membership α (Table key) := ⟨fun t a => a ∈ t.rows⟩

theorem mem_def {t : Table key} {a : α} : a ∈ t ↔ a ∈ t.rows := Iff.rfl

theorem ext_rows {t u : Table key} (h : t.rows = u.rows) : t = u := by
  cases t; cases u; simp_all

instance [DecidableEq α] : DecidableEq (Table key) := fun t u =>
  decidable_of_iff (t.rows = u.rows) ⟨ext_rows, fun h => h ▸ rfl⟩

/-- The table without rows. -/
def empty : Table key := ⟨[], by simp⟩

instance : EmptyCollection (Table key) := ⟨empty⟩

@[simp] theorem rows_empty : (∅ : Table key).rows = [] := rfl

@[simp] theorem not_mem_empty (a : α) : a ∉ (∅ : Table key) := List.not_mem_nil

/-- The primary key determines the row. -/
theorem eq_of_key_eq {t : Table key} {a b : α} (ha : a ∈ t) (hb : b ∈ t)
    (h : key a = key b) : a = b :=
  List.inj_on_of_nodup_map t.nodup ha hb h

/-! ### Updating rows in place -/

/-- `UPDATE … SET f WHERE p`: the new row keeps the key of the old one. -/
def update (t : Table key) (p : α → Bool) (f : α → α) (hf : ∀ a, key (f a) = key a) :
    Table key where
  rows := t.rows.map fun a => if p a then f a else a
  nodup := by
    have hkey : key ∘ (fun a => if p a then f a else a) = key := by
      funext a
      by_cases h : p a <;> simp [h, hf]
    rw [List.map_map, hkey]
    exact t.nodup

theorem mem_update {t : Table key} {p : α → Bool} {f : α → α}
    {hf : ∀ a, key (f a) = key a} {b : α} :
    b ∈ t.update p f hf ↔ ∃ a ∈ t, (if p a then f a else a) = b := by
  simp only [mem_def, update, List.mem_map]

/-- The row an update makes of a given row is in the updated table. -/
theorem mem_update_of_mem {t : Table key} {p : α → Bool} {f : α → α}
    {hf : ∀ a, key (f a) = key a} {a : α} (ha : a ∈ t) :
    (if p a then f a else a) ∈ t.update p f hf :=
  mem_update.mpr ⟨a, ha, rfl⟩

/-! ### Deleting rows -/

/-- `DELETE … WHERE p`. -/
def delete (t : Table key) (p : α → Bool) : Table key where
  rows := t.rows.filter fun a => !p a
  nodup := t.nodup.sublist (List.filter_sublist.map key)

@[simp] theorem mem_delete {t : Table key} {p : α → Bool} {a : α} :
    a ∈ t.delete p ↔ a ∈ t ∧ p a = false := by
  simp [mem_def, delete]

variable [DecidableEq κ]

/-! ### Lookup by key -/

/-- The row with key `k`, if there is one. -/
def find? (t : Table key) (k : κ) : Option α := t.rows.find? fun a => decide (key a = k)

theorem find?_eq_some {t : Table key} {k : κ} {a : α} :
    t.find? k = some a ↔ a ∈ t ∧ key a = k := by
  constructor
  · intro h
    exact ⟨List.mem_of_find?_eq_some h, by simpa using List.find?_some h⟩
  · rintro ⟨ha, rfl⟩
    have hsome : (t.find? (key a)).isSome := by
      rw [find?, List.find?_isSome]
      exact ⟨a, ha, by simp⟩
    obtain ⟨b, hb⟩ := Option.isSome_iff_exists.mp hsome
    have hkey : key b = key a := by simpa using List.find?_some hb
    rw [hb, eq_of_key_eq (List.mem_of_find?_eq_some hb) ha hkey]

theorem find?_eq_none {t : Table key} {k : κ} : t.find? k = none ↔ ∀ a ∈ t, key a ≠ k := by
  simp [find?, List.find?_eq_none, mem_def]

theorem mem_of_find? {t : Table key} {k : κ} {a : α} (h : t.find? k = some a) : a ∈ t :=
  (find?_eq_some.mp h).1

theorem key_of_find? {t : Table key} {k : κ} {a : α} (h : t.find? k = some a) : key a = k :=
  (find?_eq_some.mp h).2

theorem find?_of_mem {t : Table key} {a : α} (h : a ∈ t) : t.find? (key a) = some a :=
  find?_eq_some.mpr ⟨h, rfl⟩

@[simp] theorem find?_empty (k : κ) : (∅ : Table key).find? k = none := rfl

theorem find?_update {t : Table key} {p : α → Bool} {f : α → α}
    {hf : ∀ a, key (f a) = key a} {k : κ} :
    (t.update p f hf).find? k = (t.find? k).map fun a => if p a then f a else a := by
  rcases h : t.find? k with _ | a
  · rw [find?_eq_none] at h
    rw [Option.map_none, find?_eq_none]
    intro b hb
    obtain ⟨a, ha, rfl⟩ := mem_update.mp hb
    have := h a ha
    by_cases hp : p a <;> simpa [hp, hf] using this
  · obtain ⟨ha, rfl⟩ := find?_eq_some.mp h
    rw [Option.map_some, find?_eq_some]
    refine ⟨mem_update_of_mem ha, ?_⟩
    by_cases hp : p a <;> simp [hp, hf]

theorem find?_delete {t : Table key} {p : α → Bool} {k : κ} :
    (t.delete p).find? k = (t.find? k).filter fun a => !p a := by
  rcases h : t.find? k with _ | a
  · rw [find?_eq_none] at h
    rw [Option.filter_none, find?_eq_none]
    intro a ha
    exact h a (mem_delete.mp ha).1
  · obtain ⟨ha, rfl⟩ := find?_eq_some.mp h
    by_cases hp : p a
    · rw [Option.filter_some, if_neg (by simp [hp]), find?_eq_none]
      intro b hb hkey
      obtain ⟨hb, hpb⟩ := mem_delete.mp hb
      rw [eq_of_key_eq hb ha hkey, hp] at hpb
      exact Bool.noConfusion hpb
    · rw [Option.filter_some, if_pos (by simp [hp]), find?_eq_some]
      exact ⟨mem_delete.mpr ⟨ha, by simpa using hp⟩, rfl⟩

/-! ### Inserting rows -/

/-- `INSERT`: fails when a row with the same key is already there. -/
def insert? (t : Table key) (a : α) : Option (Table key) :=
  if h : key a ∈ t.rows.map key then none
  else some ⟨t.rows ++ [a], by
    rw [List.map_append, List.map_singleton]
    exact List.nodup_append.mpr ⟨t.nodup, by simp, by
      intro k hk k' hk' heq
      rw [List.mem_singleton] at hk'
      exact h (hk' ▸ heq ▸ hk)⟩⟩

theorem insert?_eq_some {t u : Table key} {a : α} :
    t.insert? a = some u ↔ t.find? (key a) = none ∧ u.rows = t.rows ++ [a] := by
  have hnone : t.find? (key a) = none ↔ key a ∉ t.rows.map key := by
    simp only [find?_eq_none, mem_def, List.mem_map, not_exists, not_and]
  rw [hnone, insert?]
  split
  · rename_i h
    simp [h]
  · rename_i h
    simp only [Option.some.injEq, h, not_false_eq_true, true_and]
    exact ⟨fun hu => hu ▸ rfl, fun hu => ext_rows hu.symm⟩

/-- `INSERT … ON CONFLICT(key) DO UPDATE SET merge`. -/
def upsert (t : Table key) (a : α) (merge : α → α) (hm : ∀ b, key (merge b) = key b) :
    Table key :=
  match t.insert? a with
  | some u => u
  | none => t.update (fun b => decide (key b = key a)) merge hm

theorem find?_append {t u : Table key} {a : α} (hnone : t.find? (key a) = none)
    (hu : u.rows = t.rows ++ [a]) (k : κ) :
    u.find? k = if k = key a then some a else t.find? k := by
  have hrows : u.find? k = (t.find? k).or (if key a = k then some a else none) := by
    simp only [find?, hu, List.find?_append, List.find?_cons, List.find?_nil]
    by_cases h : key a = k <;> simp [h]
  rw [hrows]
  by_cases h : k = key a
  · rw [h, hnone]
    simp
  · simp [h, Ne.symm h]

/-- After an upsert the key holds the new row, or the merge of the old one; every other key
holds what it held. -/
theorem find?_upsert {t : Table key} {a : α} {merge : α → α}
    {hm : ∀ b, key (merge b) = key b} {k : κ} :
    (t.upsert a merge hm).find? k =
      if k = key a then some (((t.find? k).map merge).getD a) else t.find? k := by
  rw [upsert]
  rcases h : t.insert? a with _ | u
  · have hsome : t.find? (key a) ≠ none := by
      intro hnone
      have hmem : key a ∉ t.rows.map key := by
        simpa only [find?_eq_none, mem_def, List.mem_map, not_exists, not_and] using hnone
      rw [insert?, dif_neg hmem] at h
      exact absurd h (Option.some_ne_none _)
    obtain ⟨b, hb⟩ := Option.ne_none_iff_exists'.mp hsome
    rw [find?_update]
    by_cases hk : k = key a
    · rw [hk, hb]
      simp [key_of_find? hb]
    · rw [if_neg hk]
      rcases hc : t.find? k with _ | c
      · rfl
      · simp [key_of_find? hc, hk]
  · obtain ⟨hnone, hu⟩ := insert?_eq_some.mp h
    rw [find?_append hnone hu]
    by_cases hk : k = key a
    · rw [hk, hnone]
      simp
    · simp [hk]

end Table
