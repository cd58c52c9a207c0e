import Mathlib

/-!
# Tables that keep the newest

A table from keys to values in which a value only gives way to one of a higher rank. What such a
table holds depends on what it has been given and not on the order: for each key one of the values
of the highest rank (`Newest.Holds`). Tables are functions, so that joining two of them is
pointwise.

This is the state of anything that receives versions of records from several sources, late, twice
or out of order. `Holds.put` adds one value, `Holds.foldl` a list of them, `Holds.join` a whole
table; what has been given may be listed in any order and with repetitions (`Holds.congr`).
`rank_le_put` says that the rank under a key never goes back.

Two values of the same rank under one key are not told apart: which of them a table holds depends
on which came first. A development in which a rank identifies a value gets a unique table.
-/

namespace Newest

variable {κ α : Type*} [DecidableEq κ] (key : α → κ) (rank : α → ℕ)

/-- The newer of what is there and a value; at the same rank the former stays. -/
def keep (current : Option α) (a : α) : Option α :=
  match current with
  | none => some a
  | some b => if rank a ≤ rank b then some b else some a

/-- The table that has been given one more value. -/
def put (t : κ → Option α) (a : α) : κ → Option α :=
  Function.update t (key a) (keep rank (t (key a)) a)

/-- The table that has been given all values of another one. -/
def join (t t' : κ → Option α) : κ → Option α := fun k =>
  match t' k with
  | none => t k
  | some a => keep rank (t k) a

variable {key rank}
variable {t t' : κ → Option α} {l l' : List α} {k : κ} {a b : α}

variable (rank) in
theorem keep_spec (current : Option α) (a : α) : ∃ b, keep rank current a = some b ∧
    (b = a ∨ current = some b) ∧ rank a ≤ rank b ∧ ∀ c, current = some c → rank c ≤ rank b := by
  rcases current with _ | c
  · exact ⟨a, rfl, .inl rfl, le_rfl, by simp⟩
  · rw [keep]
    split
    · rename_i hle
      exact ⟨c, rfl, .inr rfl, hle, by simp⟩
    · rename_i hlt
      refine ⟨a, rfl, .inl rfl, le_rfl, ?_⟩
      rintro _ ⟨⟩
      omega

/-- The table holds, of the values seen, one of the highest rank for each key. -/
structure Holds (key : α → κ) (rank : α → ℕ) (t : κ → Option α) (l : List α) : Prop where
  mem : ∀ k a, t k = some a → a ∈ l ∧ key a = k
  newest : ∀ a ∈ l, ∃ b, t (key a) = some b ∧ rank a ≤ rank b

omit [DecidableEq κ] in
theorem Holds.nil : Holds key rank (fun _ => none) [] := ⟨by simp, by simp⟩

omit [DecidableEq κ] in
/-- Only what has been seen matters, not the order. -/
theorem Holds.congr (h : Holds key rank t l) (hmem : ∀ a, a ∈ l ↔ a ∈ l') : Holds key rank t l' :=
  ⟨fun k a ha => ⟨(hmem a).mp (h.mem k a ha).1, (h.mem k a ha).2⟩,
    fun a ha => h.newest a ((hmem a).mpr ha)⟩

theorem Holds.put (h : Holds key rank t l) (a : α) :
    Holds key rank (put key rank t a) (l ++ [a]) := by
  obtain ⟨b, hb, hfrom, hle, habove⟩ := keep_spec rank (t (key a)) a
  have hkey : key b = key a := by
    rcases hfrom with rfl | hcurrent
    · rfl
    · exact (h.mem _ b hcurrent).2
  constructor
  · intro k c hc
    rw [Newest.put, Function.update_apply] at hc
    split at hc
    · rename_i hk
      rw [hb, Option.some.injEq] at hc
      subst hc hk
      refine ⟨?_, hkey⟩
      rcases hfrom with rfl | hcurrent
      · exact List.mem_append_right _ List.mem_cons_self
      · exact List.mem_append_left _ (h.mem _ b hcurrent).1
    · obtain ⟨hmem, hkey⟩ := h.mem k c hc
      exact ⟨List.mem_append_left _ hmem, hkey⟩
  · intro c hc
    rw [Newest.put, Function.update_apply]
    rcases List.mem_append.mp hc with hc | hc
    · obtain ⟨d, hd, hrank⟩ := h.newest c hc
      split
      · rename_i hk
        rw [hk] at hd
        exact ⟨b, hb, hrank.trans (habove d hd)⟩
      · exact ⟨d, hd, hrank⟩
    · rw [List.mem_singleton.mp hc, if_pos rfl]
      exact ⟨b, hb, hle⟩

theorem Holds.foldl (h : Holds key rank t l) (more : List α) :
    Holds key rank (more.foldl (Newest.put key rank) t) (l ++ more) := by
  induction more generalizing t l with
  | nil => rwa [List.foldl_nil, List.append_nil]
  | cons a more ih =>
    have hnext := ih (h.put a)
    rwa [List.append_assoc, List.singleton_append] at hnext

omit [DecidableEq κ] in
theorem Holds.join (h : Holds key rank t l) (h' : Holds key rank t' l') :
    Holds key rank (join rank t t') (l ++ l') := by
  -- one key of the joined table
  have hkey : ∀ k, (t' k = none ∧ Newest.join rank t t' k = t k) ∨ ∃ a b, t' k = some a ∧
      Newest.join rank t t' k = some b ∧ (b = a ∨ t k = some b) ∧ rank a ≤ rank b ∧
        ∀ c, t k = some c → rank c ≤ rank b := by
    intro k
    rcases hother : t' k with _ | a
    · exact .inl ⟨rfl, by rw [Newest.join, hother]⟩
    · obtain ⟨b, hb, hfrom, hle, habove⟩ := keep_spec rank (t k) a
      exact .inr ⟨a, b, rfl, by rw [Newest.join, hother]; exact hb, hfrom, hle, habove⟩
  constructor
  · intro k c hc
    rcases hkey k with ⟨-, hjoin⟩ | ⟨a, b, hother, hjoin, hfrom, -, -⟩
    · obtain ⟨hmem, hk⟩ := h.mem k c (hjoin ▸ hc)
      exact ⟨List.mem_append_left _ hmem, hk⟩
    · rw [hjoin, Option.some.injEq] at hc
      subst hc
      rcases hfrom with rfl | hown
      · obtain ⟨hmem, hk⟩ := h'.mem k b hother
        exact ⟨List.mem_append_right _ hmem, hk⟩
      · obtain ⟨hmem, hk⟩ := h.mem k b hown
        exact ⟨List.mem_append_left _ hmem, hk⟩
  · intro c hc
    rcases List.mem_append.mp hc with hc | hc
    · obtain ⟨d, hd, hrank⟩ := h.newest c hc
      rcases hkey (key c) with ⟨-, hjoin⟩ | ⟨a, b, -, hjoin, -, -, habove⟩
      · exact ⟨d, hjoin.trans hd, hrank⟩
      · exact ⟨b, hjoin, hrank.trans (habove d hd)⟩
    · obtain ⟨d, hd, hrank⟩ := h'.newest c hc
      rcases hkey (key c) with ⟨hnone, -⟩ | ⟨a, b, hother, hjoin, -, hle, -⟩
      · rw [hnone] at hd
        exact absurd hd (by simp)
      · rw [hother, Option.some.injEq] at hd
        subst hd
        exact ⟨b, hjoin, hrank.trans hle⟩

/-- What a table holds only gives way to something newer. -/
theorem rank_le_put (h : t k = some a) (b : α) :
    ∃ c, put key rank t b k = some c ∧ rank a ≤ rank c := by
  rw [put, Function.update_apply]
  split
  · rename_i hk
    obtain ⟨c, hc, -, -, habove⟩ := keep_spec rank (t (key b)) b
    exact ⟨c, hc, habove a (hk ▸ h)⟩
  · exact ⟨a, h, le_rfl⟩

end Newest
