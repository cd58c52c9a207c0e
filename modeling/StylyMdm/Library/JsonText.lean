import Mathlib

/-!
# Writing JSON

Strings, numbers, lists and objects as `json.dumps` writes them with `ensure_ascii=False` and
without blanks. A written value can be read back from the front of a text: equal texts begin with
equal values, and have the same text behind them.

That is how the results are stated, since a writer puts one value behind another: `quote_append_inj`
for strings, `digits_append_inj` for numbers in front of something that is no digit,
`stringList_append_inj` for lists of strings. From them it follows that two different records with
the same layout never have the same text, without a parser being defined. The one argument behind
them is about single characters: what stands for a character inside of a string begins differently
for different characters and is never a prefix of something else (`escapeChar_append_inj`).
-/

namespace Py

/-! ### Strings -/

/-- The characters that have an escape of two characters, with its letter. -/
def shortEscapes : List (Char × Char) :=
  [('\x22', '\x22'), ('\\', '\\'), ('\n', 'n'), ('\r', 'r'), ('\t', 't'), ('\x08', 'b'),
    ('\x0c', 'f')]

/-- A character inside of a JSON string. -/
def escapeChar (c : Char) : List Char :=
  match shortEscapes.lookup c with
  | some letter => ['\\', letter]
  | none =>
    if c.toNat < 32 then
      ['\\', 'u', '0', '0', Nat.digitChar (c.toNat / 16), Nat.digitChar (c.toNat % 16)]
    else [c]

/-- A JSON string. -/
def quote (s : String) : List Char := '\x22' :: (s.toList.flatMap escapeChar ++ ['\x22'])

theorem mem_shortEscapes {c letter : Char} (h : shortEscapes.lookup c = some letter) :
    (c, letter) ∈ shortEscapes := by
  obtain ⟨init, rest, heq, -⟩ := List.lookup_eq_some_iff.mp h
  rw [heq]
  exact List.mem_append_right _ List.mem_cons_self

theorem shortEscapes_inj {c c' letter : Char} (h : (c, letter) ∈ shortEscapes)
    (h' : (c', letter) ∈ shortEscapes) : c = c' := by
  have htable : ∀ p ∈ shortEscapes, ∀ q ∈ shortEscapes, p.2 = q.2 → p.1 = q.1 := by decide
  exact htable _ h _ h' rfl

theorem ne_u_of_mem_shortEscapes {c letter : Char} (h : (c, letter) ∈ shortEscapes) :
    letter ≠ 'u' := by
  have htable : ∀ p ∈ shortEscapes, p.2 ≠ 'u' := by decide
  exact htable _ h

theorem digitChar_inj {n m : Nat} (hn : n < 16) (hm : m < 16)
    (h : Nat.digitChar n = Nat.digitChar m) : n = m := by
  have hfin : ∀ i j : Fin 16, Nat.digitChar i = Nat.digitChar j → i = j := by decide
  exact congrArg Fin.val (hfin ⟨n, hn⟩ ⟨m, hm⟩ h)

/-- The three ways a character is written. -/
theorem escapeChar_cases (c : Char) :
    (∃ letter, (c, letter) ∈ shortEscapes ∧ escapeChar c = ['\\', letter]) ∨
    (c.toNat < 32 ∧ escapeChar c =
      ['\\', 'u', '0', '0', Nat.digitChar (c.toNat / 16), Nat.digitChar (c.toNat % 16)]) ∨
    (c ≠ '\\' ∧ c ≠ '\x22' ∧ escapeChar c = [c]) := by
  rw [escapeChar]
  split
  · rename_i letter hshort
    exact .inl ⟨letter, mem_shortEscapes hshort, rfl⟩
  · rename_i hshort
    have hplain : c ≠ '\\' ∧ c ≠ '\x22' := by
      constructor
      · rintro rfl
        exact absurd hshort (by decide)
      · rintro rfl
        exact absurd hshort (by decide)
    split
    · rename_i hlt
      exact .inr (.inl ⟨hlt, rfl⟩)
    · exact .inr (.inr ⟨hplain.1, hplain.2, rfl⟩)

/-- No character is written as the end of the string. -/
theorem escapeChar_append_ne {c : Char} {rest rest' : List Char} :
    escapeChar c ++ rest ≠ '\x22' :: rest' := by
  intro h
  rcases escapeChar_cases c with ⟨letter, -, heq⟩ | ⟨-, heq⟩ | ⟨-, hne, heq⟩
  · rw [heq] at h
    exact absurd (List.cons.inj h).1 (by decide)
  · rw [heq] at h
    exact absurd (List.cons.inj h).1 (by decide)
  · rw [heq] at h
    exact hne (List.cons.inj h).1

theorem escapeChar_append_inj {c c' : Char} {rest rest' : List Char}
    (h : escapeChar c ++ rest = escapeChar c' ++ rest') : c = c' ∧ rest = rest' := by
  rcases escapeChar_cases c with ⟨letter, hshort, heq⟩ | ⟨hlt, heq⟩ | ⟨hne, -, heq⟩ <;>
    rcases escapeChar_cases c' with ⟨letter', hshort', heq'⟩ | ⟨hlt', heq'⟩ | ⟨hne', -, heq'⟩ <;>
    rw [heq, heq'] at h <;>
    simp only [List.cons_append, List.nil_append, List.cons.injEq] at h
  · obtain ⟨-, rfl, hrest⟩ := h
    exact ⟨shortEscapes_inj hshort hshort', hrest⟩
  · obtain ⟨-, rfl, -⟩ := h
    exact absurd rfl (ne_u_of_mem_shortEscapes hshort)
  · exact absurd h.1.symm hne'
  · obtain ⟨-, rfl, -⟩ := h
    exact absurd rfl (ne_u_of_mem_shortEscapes hshort')
  · obtain ⟨-, -, -, -, hhigh, hlow, hrest⟩ := h
    have hdiv := digitChar_inj (by omega) (by omega) hhigh
    have hmod := digitChar_inj (by omega) (by omega) hlow
    exact ⟨Char.toNat_inj.mp (by omega), hrest⟩
  · exact absurd h.1.symm hne'
  · exact absurd h.1 hne
  · exact absurd h.1 hne
  · exact h

/-- A string is read back from the front of a text. -/
theorem quote_append_inj {s s' : String} {rest rest' : List Char}
    (h : quote s ++ rest = quote s' ++ rest') : s = s' ∧ rest = rest' := by
  have hbody : ∀ l l' : List Char,
      l.flatMap escapeChar ++ '\x22' :: rest = l'.flatMap escapeChar ++ '\x22' :: rest' →
      l = l' ∧ rest = rest' := by
    intro l
    induction l with
    | nil =>
      intro l' h
      rcases l' with _ | ⟨c', l'⟩
      · exact ⟨rfl, (List.cons.inj h).2⟩
      · rw [List.flatMap_cons, List.append_assoc] at h
        exact absurd h.symm escapeChar_append_ne
    | cons c l ih =>
      intro l' h
      rcases l' with _ | ⟨c', l'⟩
      · rw [List.flatMap_cons, List.append_assoc] at h
        exact absurd h escapeChar_append_ne
      · rw [List.flatMap_cons, List.flatMap_cons, List.append_assoc, List.append_assoc] at h
        obtain ⟨rfl, hbody⟩ := escapeChar_append_inj h
        obtain ⟨rfl, hrest⟩ := ih l' hbody
        exact ⟨rfl, hrest⟩
  simp only [quote, List.cons_append, List.append_assoc, List.nil_append] at h
  obtain ⟨hlist, hrest⟩ := hbody _ _ (List.cons.inj h).2
  exact ⟨String.toList_inj.mp hlist, hrest⟩

/-! ### Numbers -/

/-- A number that is not negative. -/
def digits (n : Nat) : List Char := Nat.toDigits 10 n

/-- A number is read back from a text in which no digit follows it. -/
theorem digits_append_inj {n n' : Nat} {c c' : Char} {rest rest' : List Char}
    (hc : c.isDigit = false) (hc' : c'.isDigit = false)
    (h : digits n ++ c :: rest = digits n' ++ c' :: rest') : n = n' ∧ c :: rest = c' :: rest' := by
  have htake : ∀ (m : Nat) (d : Char) (tail : List Char), d.isDigit = false →
      (digits m ++ d :: tail).takeWhile Char.isDigit = digits m := by
    intro m d tail hd
    have hall : ∀ x ∈ digits m, x.isDigit := fun x hx =>
      Nat.isDigit_of_mem_toDigits (by decide) (by decide) hx
    rw [List.takeWhile_append_of_pos hall, List.takeWhile_cons_of_neg (by simp [hd]),
      List.append_nil]
  have hdigits : digits n = digits n' := by
    rw [← htake n c rest hc, h, htake n' c' rest' hc']
  refine ⟨?_, ?_⟩
  · have hread := congrArg (fun l => Nat.ofDigitChars 10 l 0) hdigits
    simpa only [digits, Nat.ofDigitChars_ten_toDigits] using hread
  · rw [hdigits] at h
    exact List.append_cancel_left h

/-! ### Lists and objects -/

/-- The strings of a list, from the second one on with a comma before them. -/
def stringItems : List String → List Char
  | [] => []
  | [s] => quote s
  | s :: s' :: rest => quote s ++ ',' :: stringItems (s' :: rest)

/-- A list of strings. -/
def stringList (items : List String) : List Char := '[' :: (stringItems items ++ [']'])

/-- The members of an object: their names, and their values as they are written. -/
def members : List (String × List Char) → List Char
  | [] => []
  | [(name, value)] => quote name ++ ':' :: value
  | (name, value) :: member :: rest =>
    quote name ++ ':' :: (value ++ ',' :: members (member :: rest))

/-- An object. -/
def object (fields : List (String × List Char)) : List Char :=
  '\x7b' :: (members fields ++ ['\x7d'])

/-- A list of strings is read back from the front of a text. -/
theorem stringList_append_inj {items items' : List String} {rest rest' : List Char}
    (h : stringList items ++ rest = stringList items' ++ rest') :
    items = items' ∧ rest = rest' := by
  have hitems : ∀ l l' : List String,
      stringItems l ++ ']' :: rest = stringItems l' ++ ']' :: rest' → l = l' ∧ rest = rest' := by
    intro l
    induction l with
    | nil =>
      intro l' h
      rcases l' with _ | ⟨s', _ | ⟨s'', l'⟩⟩
      · exact ⟨rfl, (List.cons.inj h).2⟩
      · exact absurd (List.cons.inj h).1 (by decide)
      · exact absurd (List.cons.inj h).1 (by decide)
    | cons s l ih =>
      intro l' h
      rcases l with _ | ⟨t, l⟩ <;> rcases l' with _ | ⟨s', _ | ⟨t', l'⟩⟩
      · exact absurd (List.cons.inj h).1 (by decide)
      · obtain ⟨rfl, hbody⟩ := quote_append_inj h
        exact ⟨rfl, (List.cons.inj hbody).2⟩
      · simp only [stringItems, List.append_assoc, List.cons_append] at h
        obtain ⟨-, h⟩ := quote_append_inj h
        exact absurd (List.cons.inj h).1 (by decide)
      · exact absurd (List.cons.inj h).1 (by decide)
      · simp only [stringItems, List.append_assoc, List.cons_append] at h
        obtain ⟨-, h⟩ := quote_append_inj h
        exact absurd (List.cons.inj h).1 (by decide)
      · simp only [stringItems, List.append_assoc, List.cons_append] at h
        obtain ⟨rfl, hbody⟩ := quote_append_inj h
        obtain ⟨htail, hrest⟩ := ih _ (List.cons.inj hbody).2
        exact ⟨by rw [htail], hrest⟩
  simp only [stringList, List.cons_append, List.append_assoc, List.nil_append] at h
  exact hitems items items' (List.cons.inj h).2

end Py
