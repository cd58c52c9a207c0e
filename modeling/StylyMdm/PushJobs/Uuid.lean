import StylyMdm.Library.Text

/-!
# UUID texts

The server accepts job, request, artifact and process identities with `uuid.UUID(text)` and
keeps `str(parsed)` of those of version 4. `canonicalUuid4` follows the constructor of the
standard library: it drops `urn:` and `uuid:`, strips braces, drops hyphens, wants 32
characters and reads them with `int(text, 16)` — which itself allows surrounding blanks, a
sign, a `0x` and single underscores, and takes the blanks and decimal digits beyond ASCII for
ASCII ones.

Two facts are all that the rest needs. A canonical text is one: it is accepted, and as itself
(`canonicalUuid4_self`). And it consists of hexadecimal digits and hyphens, so it contains none of
the characters that a path, a file name or a JSON string would have to care about. Whatever strange
spelling a text had, what is stored of it is the canonical one.
-/

namespace StylyMdm.PushJobs

/-- `text.replace(pat, "")` on characters, `pat` not empty. `skip` counts the characters of a
match that are still to be dropped. -/
def eraseText (pat : List Char) : Nat → List Char → List Char
  | _, [] => []
  | skip + 1, _ :: rest => eraseText pat skip rest
  | 0, c :: rest =>
    if pat.isPrefixOf (c :: rest) then eraseText pat (pat.length - 1) rest
    else c :: eraseText pat 0 rest

/-- `text.strip(chars)`. -/
def stripChars (chars : List Char) (text : List Char) : List Char :=
  ((text.dropWhile (· ∈ chars)).reverse.dropWhile (· ∈ chars)).reverse

/-- The value of a hexadecimal digit. -/
def hexValue (c : Char) : Option Nat :=
  if '0' ≤ c ∧ c ≤ '9' then some (c.toNat - '0'.toNat)
  else if 'a' ≤ c ∧ c ≤ 'f' then some (c.toNat - 'a'.toNat + 10)
  else if 'A' ≤ c ∧ c ≤ 'F' then some (c.toNat - 'A'.toNat + 10)
  else none

/-- Digits with single underscores between them. `afterDigit` says whether the last character
read was a digit: only then may the text end or an underscore follow. -/
def hexDigits : Bool → Nat → List Char → Option Nat
  | afterDigit, acc, [] => if afterDigit then some acc else none
  | afterDigit, acc, c :: rest =>
    if c = '_' then (if afterDigit then hexDigits false acc rest else none)
    else
      match hexValue c with
      | some d => hexDigits true (16 * acc + d) rest
      | none => none

/-- `int(text, 16)`, for a result that is not negative. -/
def pyHexInt (text : List Char) : Option Nat :=
  let text := stripChars [' ', '\t', '\n', '\r', '\x0b', '\x0c'] text
  let (negative, text) :=
    match text with
    | '+' :: rest => (false, rest)
    | '-' :: rest => (true, rest)
    | _ => (false, text)
  let magnitude :=
    match text with
    | '0' :: 'x' :: rest | '0' :: 'X' :: rest =>
      -- one underscore may follow the base prefix
      match rest with
      | '_' :: digits => hexDigits false 0 digits
      | _ => hexDigits false 0 rest
    | _ => hexDigits false 0 text
  magnitude.filter fun value => !negative || value = 0

/-- `uuid.UUID(text).int`. -/
def uuidInt (text : String) : Option Nat :=
  let hex := eraseText "urn:".toList 0 text.toList
  let hex := eraseText "uuid:".toList 0 hex
  let hex := eraseText ['-'] 0 (stripChars ['\x7b', '\x7d'] hex)
  if hex.length ≠ 32 then none else pyHexInt hex

/-- `UUID.version == 4`: the variant bits are those of RFC 4122 and the version nibble is 4. -/
def isVersion4 (value : Nat) : Bool :=
  value / 2 ^ 62 % 4 = 2 && value / 2 ^ 76 % 16 = 4

/-- The lower-case digit of a value below 16. -/
def hexChar (value : Nat) : Char :=
  ['0', '1', '2', '3', '4', '5', '6', '7', '8', '9', 'a', 'b', 'c', 'd', 'e', 'f'].getD value '0'

/-- The last `count` hexadecimal digits of a value, most significant first. -/
def hexText : Nat → Nat → List Char
  | 0, _ => []
  | count + 1, value => hexText count (value / 16) ++ [hexChar (value % 16)]

/-- `str(UUID)`: the 32 digits in groups of 8, 4, 4, 4 and 12. -/
def uuidText (value : Nat) : String :=
  let digits := hexText 32 value
  String.ofList (digits.take 8 ++ '-' :: (digits.drop 8).take 4 ++ '-' :: (digits.drop 12).take 4 ++
    '-' :: (digits.drop 16).take 4 ++ '-' :: digits.drop 20)

/-- The zeros of the decimal digits beyond ASCII, as Unicode 15 has them. -/
def decimalZeros : List Nat :=
  [0x660, 0x6f0, 0x7c0, 0x966, 0x9e6, 0xa66, 0xae6, 0xb66, 0xbe6, 0xc66, 0xce6, 0xd66, 0xde6,
    0xe50, 0xed0, 0xf20, 0x1040, 0x1090, 0x17e0, 0x1810, 0x1946, 0x19d0, 0x1a80, 0x1a90, 0x1b50,
    0x1bb0, 0x1c40, 0x1c50, 0xa620, 0xa8d0, 0xa900, 0xa9d0, 0xa9f0, 0xaa50, 0xabf0, 0xff10,
    0x104a0, 0x10d30, 0x11066, 0x110f0, 0x11136, 0x111d0, 0x112f0, 0x11450, 0x114d0, 0x11650,
    0x116c0, 0x11730, 0x118e0, 0x11950, 0x11c50, 0x11d50, 0x11da0, 0x11f50, 0x16a60, 0x16ac0,
    0x16b50, 0x1d7ce, 0x1d7d8, 0x1d7e2, 0x1d7ec, 0x1d7f6, 0x1e140, 0x1e2f0, 0x1e4f0, 0x1e950,
    0x1fbf0]

/-- A character as `int(text, 16)` takes it. -/
def asciiChar (c : Char) : Char :=
  if c.toNat < 128 then c
  else if (Text.ofString (String.singleton c)).all Text.isSpace then ' '
  else
    match decimalZeros.find? fun first => first ≤ c.toNat && c.toNat < first + 10 with
    | some first => Nat.digitChar (c.toNat - first)
    | none => c

/-- The text with its characters as `int(text, 16)` takes them. -/
def asciiDigits (text : String) : String := String.ofList (text.toList.map asciiChar)

/-- The canonical spelling of a UUID of version 4, `none` for any other text. -/
def canonicalUuid4 (text : String) : Option String :=
  ((uuidInt (asciiDigits text)).filter isVersion4).map uuidText

example : canonicalUuid4 "\x7b6F9619FF-8B86-4011-B42D-00C04FC964FF\x7d" =
    some "6f9619ff-8b86-4011-b42d-00c04fc964ff" := by decide

example : canonicalUuid4 "6f9619ff-8b86-1011-b42d-00c04fc964ff" = none := by decide

example : canonicalUuid4 "٦f9619ff-8b86-4011-b42d-00c04fc964ff" =
    some "6f9619ff-8b86-4011-b42d-00c04fc964ff" := by decide

/-! ### Reading back the canonical spelling -/

/-- The characters of `hexText`. -/
def hexChars : List Char :=
  ['0', '1', '2', '3', '4', '5', '6', '7', '8', '9', 'a', 'b', 'c', 'd', 'e', 'f']

theorem hexChar_spec {d : Nat} (h : d < 16) :
    hexValue (hexChar d) = some d ∧ hexChar d ∈ hexChars := by
  have hfin : ∀ i : Fin 16, hexValue (hexChar i) = some i.val ∧
      hexChar i ∈ hexChars := by decide
  exact hfin ⟨d, h⟩

theorem mem_hexText {count value : Nat} {c : Char} (h : c ∈ hexText count value) :
    c ∈ hexChars := by
  induction count generalizing value with
  | zero => exact absurd h List.not_mem_nil
  | succ count ih =>
    rw [hexText, List.mem_append, List.mem_singleton] at h
    rcases h with h | rfl
    · exact ih h
    · exact (hexChar_spec (Nat.mod_lt _ (by decide))).2

theorem length_hexText (count value : Nat) : (hexText count value).length = count := by
  induction count generalizing value with
  | zero => rfl
  | succ count ih => rw [hexText, List.length_append, ih, List.length_singleton]

/-- Reading the digits of a value continues with the value in the accumulator. -/
theorem hexDigits_hexText {count value : Nat} (h : value < 16 ^ count) (afterDigit : Bool)
    (acc : Nat) (rest : List Char) :
    hexDigits afterDigit acc (hexText count value ++ rest) =
      hexDigits (afterDigit || decide (0 < count)) (16 ^ count * acc + value) rest := by
  induction count generalizing value rest with
  | zero =>
    have hzero : value = 0 := by omega
    simp [hexText, hzero]
  | succ count ih =>
    have hdiv : value / 16 < 16 ^ count := by
      rw [pow_succ] at h
      omega
    have hmod : value % 16 < 16 := Nat.mod_lt _ (by decide)
    have hne : hexChar (value % 16) ≠ '_' := by
      intro heq
      have hmem := (hexChar_spec hmod).2
      rw [heq] at hmem
      exact absurd hmem (by decide)
    have hacc : 16 * (16 ^ count * acc + value / 16) + value % 16 =
        16 ^ (count + 1) * acc + value := by
      rw [pow_succ]
      have hsplit : 16 * (value / 16) + value % 16 = value := Nat.div_add_mod value 16
      have hmul : 16 * (16 ^ count * acc) = 16 ^ count * 16 * acc := by ring
      omega
    rw [hexText, List.append_assoc, List.singleton_append, ih hdiv, hexDigits, if_neg hne,
      (hexChar_spec hmod).1]
    simp [hacc]

theorem stripChars_of_not_mem {chars text : List Char} (h : ∀ c ∈ text, c ∉ chars) :
    stripChars chars text = text := by
  have hself : ∀ l : List Char, (∀ c ∈ l, c ∉ chars) → l.dropWhile (· ∈ chars) = l := by
    intro l hl
    rcases l with _ | ⟨c, l⟩
    · rfl
    · exact List.dropWhile_cons_of_neg (by simpa using hl c List.mem_cons_self)
  rw [stripChars, hself text h, hself text.reverse (by simpa using h), List.reverse_reverse]

/-- Nothing is erased from a text without the first character of the pattern. -/
theorem eraseText_of_not_mem {c : Char} {pat text : List Char} (h : c ∉ text) :
    eraseText (c :: pat) 0 text = text := by
  induction text with
  | nil => rfl
  | cons c' text ih =>
    rw [List.mem_cons, not_or] at h
    have hpre : ¬ (c :: pat).isPrefixOf (c' :: text) := by
      rw [List.isPrefixOf_iff_prefix, List.cons_prefix_cons]
      exact fun hpre => h.1 hpre.1
    rw [eraseText, if_neg hpre, ih h.2]

theorem eraseText_singleton (c : Char) (text : List Char) :
    eraseText [c] 0 text = text.filter (· ≠ c) := by
  induction text with
  | nil => rfl
  | cons c' text ih =>
    by_cases heq : c' = c
    · subst heq
      simp [eraseText, List.isPrefixOf, ih]
    · simp [eraseText, List.isPrefixOf, Ne.symm heq, heq, ih]

/-- Two digits or more are read as they are: without a sign or a base before them. -/
theorem pyHexInt_of_digits {text : List Char} (hmem : ∀ c ∈ text, c ∈ hexChars)
    {c c' : Char} {rest : List Char} (htext : text = c :: c' :: rest) :
    pyHexInt text = hexDigits false 0 text := by
  have hblank : ∀ d ∈ text, d ∉ [' ', '\t', '\n', '\r', '\x0b', '\x0c'] := by
    have htable : ∀ d ∈ hexChars,
        d ∉ [' ', '\t', '\n', '\r', '\x0b', '\x0c'] := by simp [hexChars]
    exact fun d hd => htable d (hmem d hd)
  have hother : ∀ d ∈ hexChars, d ≠ '+' ∧ d ≠ '-' ∧ d ≠ 'x' ∧ d ≠ 'X' := by
    simp [hexChars]
  obtain ⟨hplus, hminus, -, -⟩ := hother c (hmem c (by simp [htext]))
  obtain ⟨-, -, hx, hX⟩ := hother c' (hmem c' (by simp [htext]))
  rw [pyHexInt, stripChars_of_not_mem hblank, htext]
  simp [hplus, hminus, hx, hX]
  rcases hexDigits false 0 (c :: c' :: rest) with _ | value <;> rfl

/-- The digits in their groups, as `uuidText` writes them. -/
def groups (digits : List Char) : List Char :=
  digits.take 8 ++ '-' :: (digits.drop 8).take 4 ++ '-' :: (digits.drop 12).take 4 ++
    '-' :: (digits.drop 16).take 4 ++ '-' :: digits.drop 20

theorem mem_groups {digits : List Char} {c : Char} (h : c ∈ groups digits) :
    c = '-' ∨ c ∈ digits := by
  have htake : ∀ i n, (digits.drop i).take n ⊆ digits := fun i n =>
    ((List.take_sublist n _).trans (List.drop_sublist i _)).subset
  simp only [groups, List.append_assoc, List.cons_append, List.mem_append, List.mem_cons] at h
  rcases h with h | h | h | h | h | h | h | h | h
  · exact .inr ((List.take_sublist _ _).subset h)
  · exact .inl h
  · exact .inr (htake 8 4 h)
  · exact .inl h
  · exact .inr (htake 12 4 h)
  · exact .inl h
  · exact .inr (htake 16 4 h)
  · exact .inl h
  · exact .inr ((List.drop_sublist _ _).subset h)

/-- Without the hyphens the digits are left. -/
theorem filter_groups {digits : List Char} (h : '-' ∉ digits) :
    (groups digits).filter (· ≠ '-') = digits := by
  have hself : ∀ l ⊆ digits, l.filter (· ≠ '-') = l := by
    intro l hl
    refine List.filter_eq_self.mpr fun c hc => ?_
    rw [decide_eq_true_iff]
    rintro rfl
    exact h (hl hc)
  have htake : ∀ i n, (digits.drop i).take n ⊆ digits := fun i n =>
    ((List.take_sublist n _).trans (List.drop_sublist i _)).subset
  have hhyphen : ∀ l : List Char, ('-' :: l).filter (· ≠ '-') = l.filter (· ≠ '-') :=
    fun l => List.filter_cons_of_neg (by simp)
  have hstep : ∀ i, (digits.drop i).take 4 ++ digits.drop (i + 4) = digits.drop i := by
    intro i
    rw [← List.drop_drop, List.take_append_drop]
  simp only [groups, List.append_assoc, List.cons_append, List.filter_append, hhyphen]
  rw [hself _ (List.take_sublist _ _).subset, hself _ (htake 8 4), hself _ (htake 12 4),
    hself _ (htake 16 4), hself _ (List.drop_sublist _ _).subset, hstep 16, hstep 12, hstep 8,
    List.take_append_drop]

/-- The canonical spelling is an ASCII text. -/
theorem toNat_lt_of_mem_uuidText {value : Nat} {c : Char} (h : c ∈ (uuidText value).toList) :
    c.toNat < 128 := by
  have htable : ∀ d ∈ '-' :: hexChars, d.toNat < 128 := by simp [hexChars]
  rw [uuidText, String.toList_ofList] at h
  rcases mem_groups h with rfl | h
  · exact htable _ List.mem_cons_self
  · exact htable c (List.mem_cons_of_mem _ (mem_hexText h))

theorem asciiDigits_uuidText (value : Nat) : asciiDigits (uuidText value) = uuidText value := by
  rw [asciiDigits, ← String.toList_inj, String.toList_ofList]
  exact (List.map_congr_left fun c hc => if_pos (toNat_lt_of_mem_uuidText hc)).trans (List.map_id _)

/-- `str` of a value of 128 bits is read as that value. -/
theorem uuidInt_uuidText {value : Nat} (h : value < 2 ^ 128) :
    uuidInt (uuidText value) = some value := by
  have hlen := length_hexText 32 value
  have hmem : ∀ c ∈ hexText 32 value, c ∈ hexChars := fun c => mem_hexText
  have htext : (uuidText value).toList = groups (hexText 32 value) := String.toList_ofList
  have hnot : ∀ c ∉ '-' :: hexChars, c ∉ groups (hexText 32 value) := by
    intro c hc hin
    rw [List.mem_cons, not_or] at hc
    rcases mem_groups hin with heq | hin
    · exact hc.1 heq
    · exact hc.2 (hmem c hin)
  have hstrip : stripChars ['\x7b', '\x7d'] (groups (hexText 32 value)) =
      groups (hexText 32 value) := by
    refine stripChars_of_not_mem fun c hc hbrace => ?_
    have htable : ∀ d ∈ ['\x7b', '\x7d'], d ∉ '-' :: hexChars := by simp [hexChars]
    exact hnot c (htable c hbrace) hc
  have hu : 'u' ∉ groups (hexText 32 value) := hnot 'u' (by simp [hexChars])
  have hurn : "urn:".toList = ['u', 'r', 'n', ':'] := rfl
  have huuid : "uuid:".toList = ['u', 'u', 'i', 'd', ':'] := rfl
  have hhyphen : '-' ∉ hexText 32 value := fun hin => by simpa [hexChars] using hmem _ hin
  obtain ⟨c, c', rest, hcons⟩ : ∃ c c' rest, hexText 32 value = c :: c' :: rest := by
    rcases htext : hexText 32 value with _ | ⟨c, _ | ⟨c', rest⟩⟩
    · rw [htext] at hlen
      exact absurd hlen (by decide)
    · rw [htext] at hlen
      exact absurd hlen (by simp)
    · exact ⟨c, c', rest, rfl⟩
  rw [uuidInt, htext, hurn, huuid, eraseText_of_not_mem hu, eraseText_of_not_mem hu, hstrip,
    eraseText_singleton, filter_groups hhyphen]
  simp only [hlen, ne_eq, not_true_eq_false, if_false]
  have hread := hexDigits_hexText (show value < 16 ^ 32 by omega) false 0 []
  rw [List.append_nil] at hread
  rw [pyHexInt_of_digits hmem hcons, hread]
  simp [hexDigits]

/-! ### The values that are read -/

theorem hexDigits_lt {afterDigit : Bool} {acc value : Nat} {text : List Char}
    (h : hexDigits afterDigit acc text = some value) : value < 16 ^ text.length * (acc + 1) := by
  induction text generalizing afterDigit acc with
  | nil =>
    rw [hexDigits] at h
    split_ifs at h with hafter
    rw [← Option.some.inj h]
    simp
  | cons c text ih =>
    have hpow : 16 ^ (c :: text).length = 16 ^ text.length * 16 := pow_succ 16 text.length
    rw [hexDigits] at h
    split_ifs at h with hunder hafter
    · have hlt := ih h
      have hle : 16 ^ text.length * (acc + 1) ≤ 16 ^ text.length * 16 * (acc + 1) :=
        Nat.mul_le_mul_right _ (Nat.le_mul_of_pos_right _ (by decide))
      rw [hpow]
      omega
    · split at h
      · rename_i d hd
        have hd16 : d < 16 := by
          simp only [hexValue] at hd
          have hle : ∀ a b : Char, a ≤ b → a.toNat ≤ b.toNat := fun a b hab => hab
          split_ifs at hd with hdec hlow hup
          · have := hle _ _ hdec.2
            simp at hd this
            omega
          · have := hle _ _ hlow.2
            simp at hd this
            omega
          · have := hle _ _ hup.2
            simp at hd this
            omega
        have hlt := ih h
        have hle : 16 ^ text.length * (16 * acc + d + 1) ≤ 16 ^ text.length * (16 * (acc + 1)) :=
          Nat.mul_le_mul_left _ (by omega)
        rw [hpow, Nat.mul_assoc]
        omega
      · exact absurd h (by simp)

theorem length_stripChars_le (chars text : List Char) :
    (stripChars chars text).length ≤ text.length := by
  rw [stripChars, List.length_reverse]
  have hright := (List.dropWhile_sublist (· ∈ chars) (l := (text.dropWhile (· ∈ chars)).reverse))
  have hleft := (List.dropWhile_sublist (· ∈ chars) (l := text))
  have hlen := hright.length_le
  rw [List.length_reverse] at hlen
  exact hlen.trans hleft.length_le

theorem pyHexInt_lt {text : List Char} {value : Nat} (h : pyHexInt text = some value) :
    value < 16 ^ text.length := by
  have hread : ∀ rest : List Char, rest.length ≤ text.length →
      hexDigits false 0 rest = some value → value < 16 ^ text.length := by
    intro rest hlen hrest
    have hlt := hexDigits_lt hrest
    have hle : 16 ^ rest.length ≤ 16 ^ text.length := Nat.pow_le_pow_right (by decide) hlen
    omega
  -- whatever is dropped before the digits, they are the end of a part of the text
  have hmagnitude : ∀ rest : List Char, rest.length ≤ text.length →
      (match rest with
        | '0' :: 'x' :: rest | '0' :: 'X' :: rest =>
          match rest with
          | '_' :: digits => hexDigits false 0 digits
          | _ => hexDigits false 0 rest
        | _ => hexDigits false 0 rest) = some value → value < 16 ^ text.length := by
    intro rest hlen hrest
    split at hrest
    · simp only [List.length_cons] at hlen
      split at hrest
      · simp only [List.length_cons] at hlen
        exact hread _ (by omega) hrest
      · exact hread _ (by omega) hrest
    · simp only [List.length_cons] at hlen
      split at hrest
      · simp only [List.length_cons] at hlen
        exact hread _ (by omega) hrest
      · exact hread _ (by omega) hrest
    · exact hread _ hlen hrest
  have hstrip := length_stripChars_le [' ', '\t', '\n', '\r', '\x0b', '\x0c'] text
  simp only [pyHexInt] at h
  split at h
  · rename_i rest heq
    rw [heq, List.length_cons] at hstrip
    exact hmagnitude rest (by omega) (Option.filter_eq_some_iff.mp h).1
  · rename_i rest heq
    rw [heq, List.length_cons] at hstrip
    exact hmagnitude rest (by omega) (Option.filter_eq_some_iff.mp h).1
  · exact hmagnitude _ hstrip (Option.filter_eq_some_iff.mp h).1

theorem uuidInt_lt {text : String} {value : Nat} (h : uuidInt text = some value) :
    value < 2 ^ 128 := by
  simp only [uuidInt] at h
  split_ifs at h with hlen
  have hlt := pyHexInt_lt h
  rw [not_not.mp hlen] at hlt
  omega

/-- The canonical spelling is its own. -/
theorem canonicalUuid4_self {text canonical : String} (h : canonicalUuid4 text = some canonical) :
    canonicalUuid4 canonical = some canonical := by
  rw [canonicalUuid4, Option.map_eq_some_iff] at h
  obtain ⟨value, hvalue, rfl⟩ := h
  obtain ⟨hread, hversion⟩ := Option.filter_eq_some_iff.mp hvalue
  rw [canonicalUuid4, asciiDigits_uuidText, uuidInt_uuidText (uuidInt_lt hread),
    Option.filter_some, if_pos hversion, Option.map_some]

end StylyMdm.PushJobs
