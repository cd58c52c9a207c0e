import Mathlib

/-!
# Text

Strings as lists of code points, lone surrogates included: a JSON text can name them, and a Python
or Kotlin string then holds them. Lean's own strings cannot, so a text that a program reads from
outside is a `Str`, and `ofString` makes one of a literal. UTF-8 encodes a string if it has no
surrogates (`encodable`), and then nothing is lost on the way to Lean's strings and back
(`asString_ofString`, `ofString_asString`).

Stripping is defined for any notion of white space, of which the two languages have different ones:
`isSpace` is Python's, `isWhitespace` is Kotlin's. What programs do to names and labels is to strip
and to cut them, in this order or in the other. A stripped text stays as it is when it is stripped
again (`strip_strip`), but one that was cut afterwards may end in white space; the lemmas about
`take` say what is left of it.
-/

namespace Text

/-- A code point. -/
abbrev Point := Fin 0x110000

instance Point.neZero : NeZero 0x110000 := ⟨by decide⟩

instance Point.lawfulBEq : LawfulBEq Point := inferInstance

/-- A string. -/
abbrev Str := List Point

instance Str.lawfulBEq : LawfulBEq Str := inferInstance

/-- The code points of a string without surrogates. -/
def ofString (s : String) : Str :=
  s.toList.map fun c => ⟨c.toNat, by
    have hvalid := c.valid
    simp only [UInt32.isValidChar, Nat.isValidChar] at hvalid
    change c.val.toNat < 0x110000
    omega⟩

@[simp] theorem ofString_inj {s t : String} : ofString s = ofString t ↔ s = t := by
  constructor
  · intro h
    have hinj : Function.Injective fun c : Char => c.toNat := fun c d hcd => Char.toNat_inj.mp hcd
    have hmap : s.toList.map (fun c : Char => c.toNat) = t.toList.map fun c : Char => c.toNat := by
      have hval := congrArg (List.map Fin.val) h
      simpa only [ofString, List.map_map, Function.comp_def] using hval
    exact String.toList_inj.mp (List.map_injective_iff.mpr hinj hmap)
  · intro h
    rw [h]

@[simp] theorem ofString_beq (s t : String) :
    (ofString s == ofString t) = decide (s = t) := by
  rw [Bool.eq_iff_iff, beq_iff_eq, decide_eq_true_iff, ofString_inj]

/-- A surrogate, which UTF-8 cannot encode. -/
def isSurrogate (c : Point) : Bool := 0xd800 ≤ c.val && c.val ≤ 0xdfff

/-- Can the string be encoded as UTF-8? -/
def encodable (s : Str) : Bool := s.all fun c => !isSurrogate c

theorem encodable_ofString (s : String) : encodable (ofString s) = true := by
  rw [encodable, List.all_eq_true]
  intro c hc
  obtain ⟨char, -, rfl⟩ := List.mem_map.mp hc
  have hvalid := char.valid
  simp only [UInt32.isValidChar, Nat.isValidChar] at hvalid
  have hnat : char.toNat = char.val.toNat := rfl
  simp only [isSurrogate, Bool.not_eq_true', Bool.and_eq_false_iff, decide_eq_false_iff_not, hnat]
  omega

/-- The string of code points that UTF-8 can encode. -/
def asString (s : Str) : String := String.ofList (s.map fun c => Char.ofNat c.val)

theorem asString_ofString (s : String) : asString (ofString s) = s := by
  rw [asString, ofString, List.map_map]
  have hid : (fun c : Point => Char.ofNat c.val) ∘ (fun c : Char => (⟨c.toNat, by
      have hvalid := c.valid
      simp only [UInt32.isValidChar, Nat.isValidChar] at hvalid
      change c.val.toNat < 0x110000
      omega⟩ : Point)) = id := by
    funext c
    exact Char.ofNat_toNat c
  rw [hid, List.map_id, String.ofList_toList]

theorem ofString_asString {s : Str} (h : encodable s) : ofString (asString s) = s := by
  rw [encodable, List.all_eq_true] at h
  rw [asString, ofString, String.toList_ofList, List.map_map]
  refine (List.map_congr_left fun c hc => ?_).trans (List.map_id s)
  have hsurrogate := h c hc
  have hlt := c.isLt
  have hvalid : Nat.isValidChar c.val := by
    simp only [isSurrogate, Bool.not_eq_true', Bool.and_eq_false_iff, decide_eq_false_iff_not]
      at hsurrogate
    rw [Nat.isValidChar]
    omega
  apply Fin.ext
  simp [Function.comp, Char.toNat_ofNat, hvalid]

/-- Kotlin's `Char.isWhitespace`: the separators of Unicode and the white space among the control
characters, without U+0085. -/
def isWhitespace (c : Point) : Bool :=
  (9 ≤ c.val && c.val ≤ 13) || (28 ≤ c.val && c.val ≤ 32) || c.val = 0xa0 || c.val = 0x1680 ||
    (0x2000 ≤ c.val && c.val ≤ 0x200a) || c.val = 0x2028 || c.val = 0x2029 || c.val = 0x202f ||
    c.val = 0x205f || c.val = 0x3000

/-- Python's `str.isspace` for one character. -/
def isSpace (c : Point) : Bool := isWhitespace c || c.val = 0x85

/-- Lower case, as far as it gives ASCII letters: of the other characters only the Kelvin sign has
an ASCII letter as its lower case. -/
def lower (c : Point) : Point :=
  if h : 65 ≤ c.val ∧ c.val ≤ 90 then ⟨c.val + 32, by omega⟩
  else if c.val = 0x212a then 107
  else c

section Strip

variable {α : Type*} {p : α → Bool} {l : List α} {c : α}

/-- The list without what satisfies `p` at its ends. -/
def strip (p : α → Bool) (l : List α) : List α := (l.dropWhile p).rdropWhile p

theorem strip_sublist (p : α → Bool) (l : List α) : (strip p l).Sublist l :=
  (List.rdropWhile_prefix p _).sublist.trans (List.dropWhile_sublist p)

/-- What is stripped at its left end stays so when its right end is cut. -/
theorem dropWhile_eq_self_of_prefix {l' : List α} (h : l' <+: l.dropWhile p) :
    l'.dropWhile p = l' := by
  rw [List.dropWhile_eq_self_iff]
  intro hpos
  obtain ⟨rest, hrest⟩ := h
  have hlen : 0 < (l.dropWhile p).length := by
    rw [← hrest, List.length_append]
    omega
  have hhead : l'[0] = (l.dropWhile p)[0] := by
    simp only [← hrest, List.getElem_append_left hpos]
  rw [hhead]
  exact List.dropWhile_get_zero_not p l hlen

/-- What was stripped and cut has no white space at its left end. -/
theorem dropWhile_take_strip (n : Nat) :
    ((strip p l).take n).dropWhile p = (strip p l).take n :=
  dropWhile_eq_self_of_prefix ((List.take_prefix n _).trans (List.rdropWhile_prefix p _))

/-- Stripping what was stripped and cut only strips the cut. -/
theorem strip_take_strip (n : Nat) :
    strip p ((strip p l).take n) = ((strip p l).take n).rdropWhile p := by
  rw [strip, dropWhile_take_strip]

theorem strip_strip : strip p (strip p l) = strip p l := by
  have htake := strip_take_strip (p := p) (l := l) (strip p l).length
  rw [List.take_length] at htake
  rw [htake, strip, List.rdropWhile_idempotent]

theorem strip_eq_nil_iff : strip p l = [] ↔ ∀ c ∈ l, p c := by
  rw [strip, List.rdropWhile_eq_nil_iff]
  constructor
  · intro h
    have hnil : l.dropWhile p = [] := by
      by_contra hne
      have hpos := List.length_pos_iff.mpr hne
      exact List.dropWhile_get_zero_not p l hpos (h _ (List.getElem_mem hpos))
    exact List.dropWhile_eq_nil_iff.mp hnil
  · intro h c hc
    exact h c ((List.dropWhile_sublist p).subset hc)

/-- A cut of what was stripped is not only white space. -/
theorem strip_take_ne_nil {n : Nat} (h : (strip p l).take n ≠ []) :
    strip p ((strip p l).take n) ≠ [] := by
  intro hnil
  rw [strip_eq_nil_iff] at hnil
  rw [← List.dropWhile_eq_nil_iff, dropWhile_take_strip] at hnil
  exact h hnil

theorem strip_cons_of_pos (h : p c) : strip p (c :: l) = strip p l := by
  rw [strip, List.dropWhile_cons_of_pos h, strip]

/-- What is not stripped at the left end is only cut at the right end. -/
theorem strip_cons_of_neg (h : ¬ p c) : ∃ l', strip p (c :: l) = c :: l' ∧ l' <+: l := by
  have heq : strip p (c :: l) = (c :: l).rdropWhile p := by
    rw [strip, List.dropWhile_cons_of_neg h]
  have hne : strip p (c :: l) ≠ [] := by
    intro hnil
    exact h (strip_eq_nil_iff.mp hnil c List.mem_cons_self)
  obtain ⟨first, l', hl'⟩ := List.exists_cons_of_ne_nil hne
  have hpre := List.rdropWhile_prefix p (c :: l)
  rw [← heq, hl', List.cons_prefix_cons] at hpre
  exact ⟨l', by rw [hl', hpre.1], hpre.2⟩

/-- A list is its own stripping when neither of its ends is stripped. -/
theorem strip_eq_self (hhead : ∀ c ∈ l.head?, ¬ p c) (hlast : ∀ c ∈ l.getLast?, ¬ p c) :
    strip p l = l := by
  rcases l with _ | ⟨c, l⟩
  · rfl
  · rw [strip, List.dropWhile_cons_of_neg (hhead c (by simp)), List.rdropWhile_eq_self_iff]
    intro hne
    exact hlast _ (List.getLast?_eq_some_getLast hne)

theorem rdropWhile_append_of_head {c : α} {before after : List α} (hc : ¬ p c) :
    (before ++ c :: after).rdropWhile p = before ++ c :: after.rdropWhile p := by
  have hsingle : (c :: before.reverse).dropWhile p = c :: before.reverse :=
    List.dropWhile_cons_of_neg hc
  rw [List.rdropWhile, List.reverse_append, List.reverse_cons, List.append_assoc,
    List.singleton_append, List.dropWhile_append]
  split
  · rename_i hempty
    rw [hsingle, List.rdropWhile, List.isEmpty_iff.mp hempty]
    simp
  · rw [List.reverse_append, List.rdropWhile]
    simp

/-- Stripping works on both sides of a character that is not stripped. -/
theorem strip_append_of_head {c : α} {before after : List α} (hc : ¬ p c) :
    strip p (before ++ c :: after) = before.dropWhile p ++ c :: after.rdropWhile p := by
  rw [strip, List.dropWhile_append]
  split
  · rename_i hempty
    rw [List.isEmpty_iff.mp hempty, List.dropWhile_cons_of_neg hc]
    exact @rdropWhile_append_of_head _ p c [] after hc
  · rw [rdropWhile_append_of_head hc]

/-- What is stripped at the right end does not matter. -/
theorem strip_append_of_all {before after : List α} (h : ∀ c ∈ after, p c) :
    strip p (before ++ after) = strip p before := by
  have hrev : after.reverse.dropWhile p = [] :=
    List.dropWhile_eq_nil_iff.mpr fun c hc => h c (List.mem_reverse.mp hc)
  have hright : ∀ l : List α, (l ++ after).rdropWhile p = l.rdropWhile p := by
    intro l
    rw [List.rdropWhile, List.reverse_append, List.dropWhile_append, hrev, List.isEmpty_nil,
      if_pos rfl, List.rdropWhile]
  rw [strip, List.dropWhile_append]
  split
  · rename_i hempty
    rw [strip, List.isEmpty_iff.mp hempty, List.dropWhile_eq_nil_iff.mpr h]
  · rw [hright, strip]

/-- The left end of what was stripped is not stripped. -/
theorem not_of_head?_strip (h : c ∈ (strip p l).head?) : ¬ p c := by
  have hidem : (strip p l).dropWhile p = strip p l :=
    dropWhile_eq_self_of_prefix (List.rdropWhile_prefix p _)
  rw [List.dropWhile_eq_self_iff] at hidem
  obtain ⟨rest, hrest⟩ := List.head?_eq_some_iff.mp h
  have hpos : 0 < (strip p l).length := by
    rw [hrest, List.length_cons]
    omega
  have hfirst := hidem hpos
  simp only [hrest, List.getElem_cons_zero] at hfirst
  exact hfirst

/-- The right end of what was stripped is not stripped. -/
theorem not_of_getLast?_strip (h : c ∈ (strip p l).getLast?) : ¬ p c := by
  have hidem : (strip p l).rdropWhile p = strip p l := by
    rw [strip, List.rdropWhile_idempotent]
  rw [List.rdropWhile_eq_self_iff] at hidem
  obtain ⟨hne, rfl⟩ := List.mem_getLast?_eq_getLast h
  exact hidem hne

/-- What ends in a character that is not stripped is stripped at its left end. -/
theorem strip_eq_dropWhile (h : ∀ c ∈ l.getLast?, ¬ p c) : strip p l = l.dropWhile p := by
  rw [strip, List.rdropWhile_eq_self_iff]
  intro hne
  obtain ⟨init, hinit⟩ := List.dropWhile_suffix (l := l) p
  have hlast : l.getLast? = (l.dropWhile p).getLast? := by
    conv_lhs => rw [← hinit, List.getLast?_append_of_ne_nil _ hne]
  refine h _ ?_
  rw [hlast, List.getLast?_eq_some_getLast hne, Option.mem_def]

end Strip

end Text
