import StylyMdm.Library.Text

/-!
# Lines

A text as the sequence of its lines, which end at a line feed, a carriage return, or both. Lines
without these characters that are joined by line feeds are read back (`lines_unlines`).

The reader is the one of Kotlin's `lineSequence`, which accepts three line ends, while the writer
only uses one of them. So the round trip needs that no line contains a line end of any kind
(`OneLine`), and that there is at least one line: the empty text is read as one empty line.
-/

namespace Text

/-- `lineSequence()`. -/
def lines : Str → List Str
  | [] => [[]]
  | c :: text =>
    if c = 13 ∧ text.head? = some 10 then lines text
    else if c = 10 ∨ c = 13 then [] :: lines text
    else (lines text).modifyHead (c :: ·)

/-- `joinToString("\n")`. -/
def unlines (lines : List Str) : Str := [(10 : Point)].intercalate lines

/-- A text of one line. -/
def OneLine (text : Str) : Prop := 10 ∉ text ∧ 13 ∉ text

instance (text : Str) : Decidable (OneLine text) := inferInstanceAs (Decidable (_ ∧ _))

variable {text line rest : Str} {ls : List Str}

theorem oneLine_cons {c : Point} : OneLine (c :: text) ↔ (c ≠ 10 ∧ c ≠ 13) ∧ OneLine text := by
  simp only [OneLine, List.mem_cons, not_or, ne_comm (a := c)]
  tauto

theorem lines_cons {c : Point} (hc : c ≠ 10 ∧ c ≠ 13) :
    lines (c :: text) = (lines text).modifyHead (c :: ·) := by
  rw [lines, if_neg (fun h => hc.2 h.1), if_neg (by simp [hc])]

theorem lines_append_feed (h : OneLine line) : lines (line ++ 10 :: rest) = line :: lines rest := by
  induction line with
  | nil => rw [List.nil_append, lines, if_neg (fun h => absurd h.1 (by decide)), if_pos (.inl rfl)]
  | cons c line ih =>
    obtain ⟨hc, hline⟩ := oneLine_cons.mp h
    rw [List.cons_append, lines_cons hc, ih hline, List.modifyHead_cons]

theorem lines_eq_singleton (h : OneLine line) : lines line = [line] := by
  induction line with
  | nil => rfl
  | cons c line ih =>
    obtain ⟨hc, hline⟩ := oneLine_cons.mp h
    rw [lines_cons hc, ih hline, List.modifyHead_cons]

theorem unlines_cons_cons (line line' : Str) (ls : List Str) :
    unlines (line :: line' :: ls) = line ++ 10 :: unlines (line' :: ls) := by
  simp [unlines, List.intercalate_cons_cons]

/-- Lines that are joined are read back. -/
theorem lines_unlines (h : ∀ line ∈ ls, OneLine line) (hne : ls ≠ []) :
    lines (unlines ls) = ls := by
  induction ls with
  | nil => exact absurd rfl hne
  | cons line ls ih =>
    have hline := h line List.mem_cons_self
    cases ls with
    | nil => exact (congrArg lines (by simp [unlines])).trans (lines_eq_singleton hline)
    | cons line' ls =>
      rw [unlines_cons_cons, lines_append_feed hline,
        ih (fun line hmem => h line (List.mem_cons_of_mem _ hmem)) (List.cons_ne_nil _ _)]

end Text
