import StylyMdm.Library.Text

/-!
# Decimal numbers in texts

A natural number is written with ASCII digits and read with the decimal digits of Unicode, which
come in runs of ten: the point of a run's zero and the nine points behind it. Which runs there are
depends on the version of Unicode that a platform was built with, so the points of their zeros are
a parameter. Nothing is assumed of it; in particular the runs may overlap the ASCII digits, which
are read first.

The result is the round trip (`readDigits_digits`): whatever the runs are, the digits that are
written are read back as the number they were written for. Its two halves are that only ASCII
digits are written (`mem_digits`) and that these have their own value (`digitOf_ascii`).
-/

namespace Text

/-- The number without leading zeros. -/
def digits (n : Nat) : Str := ofString n.repr

/-- `Character.digit(c, 10)`, given the zeros of the runs beyond ASCII. -/
def digitOf (zeros : List Point) (c : Point) : Option Nat :=
  ((48 :: zeros).find? fun zero => zero ≤ c ∧ c.val < zero.val + 10).map fun zero =>
    c.val - zero.val

/-- The number that the digits `text` continue, after `n`. -/
def readDigits (zeros : List Point) (n : Nat) (text : Str) : Option Nat :=
  text.foldlM (fun n c => (digitOf zeros c).map fun d => 10 * n + d) n

variable {zeros : List Point} {c : Point}

theorem digitOf_ascii (h : 48 ≤ c.val ∧ c.val < 58) : digitOf zeros c = some (c.val - 48) := by
  rw [digitOf, List.find?_cons_of_pos]
  · rfl
  · rw [decide_eq_true_iff]
    exact ⟨h.1, h.2⟩

theorem mem_digits {n : Nat} (h : c ∈ digits n) : 48 ≤ c.val ∧ c.val < 58 := by
  rw [digits, ofString, Nat.toList_repr] at h
  obtain ⟨digit, hdigit, rfl⟩ := List.mem_map.mp h
  have hrange := Nat.isDigit_of_mem_toDigits (by decide) (by decide) hdigit
  rw [Char.isDigit, Bool.and_eq_true, decide_eq_true_iff, decide_eq_true_iff] at hrange
  exact ⟨hrange.1, Nat.lt_succ_of_le hrange.2⟩

theorem digits_ne_nil (n : Nat) : digits n ≠ [] := by
  rw [digits, ofString, Nat.toList_repr, Ne, List.map_eq_nil_iff]
  exact Nat.toDigits_ne_nil

/-- What was written is read back. -/
theorem readDigits_digits (zeros : List Point) (n : Nat) :
    readDigits zeros 0 (digits n) = some n := by
  have hread : ∀ (l : List Char) (m : Nat), (∀ c ∈ l, c.isDigit) →
      readDigits zeros m (ofString (String.ofList l)) = some (Nat.ofDigitChars 10 l m) := by
    intro l
    induction l with
    | nil =>
      intro m _
      rw [Nat.ofDigitChars_nil]
      rfl
    | cons c l ih =>
      intro m hl
      have hc := hl c List.mem_cons_self
      rw [Char.isDigit, Bool.and_eq_true, decide_eq_true_iff, decide_eq_true_iff] at hc
      have hvalid : c.toNat < 0x110000 := lt_of_le_of_lt hc.2 (by decide)
      have htext : ofString (String.ofList (c :: l)) =
          ⟨c.toNat, hvalid⟩ :: ofString (String.ofList l) := by
        rw [ofString, String.toList_ofList, List.map_cons, ofString, String.toList_ofList]
      have hrange : 48 ≤ c.toNat ∧ c.toNat < 58 := ⟨hc.1, Nat.lt_succ_of_le hc.2⟩
      rw [htext, readDigits, List.foldlM_cons, digitOf_ascii hrange, Nat.ofDigitChars_cons]
      exact ih _ fun c hc => hl c (List.mem_cons_of_mem _ hc)
  rw [digits, Nat.repr_eq_ofList_toDigits, hread _ _ fun c hc =>
    Nat.isDigit_of_mem_toDigits (by decide) (by decide) hc, Nat.ofDigitChars_ten_toDigits]

end Text
