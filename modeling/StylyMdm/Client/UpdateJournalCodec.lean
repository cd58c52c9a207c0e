import StylyMdm.Library.Decimal
import StylyMdm.Library.Lines

/-!
# The lines of the update journal

`UpdateJournalCodec`: an event is one line of the journal, with its time, its name and its detail
between tabs, and the journal keeps the newest `maxEvents` lines. What was appended is read back,
and a line that is damaged costs its own event only.

A string is the list of its UTF-16 units here, which are points below `0x10000`; nothing depends on
how they pair up.

**Escaping.** Backslashes, tabs and line ends of a field are escaped, so a field contains none of
the characters that separate fields and lines (`ne_of_mem_escape`), and unescaping gives it back
(`unescape_escape`). An escape that the writer does not make is kept as it stands, so reading never
fails on a field.

**Damage.** The reader splits the text at its line ends and drops every line that is no entry. If
one line of a journal is replaced by any other, the events of the other lines are read as before;
the new line is an event of its own or none (`parse_journal`).
-/

namespace StylyMdm.Client.UpdateJournalCodec

open Text

/-- Kotlin's `Long`. -/
abbrev Long := { n : Int // -2 ^ 63 ≤ n ∧ n < 2 ^ 63 }

/-- `MAX_EVENTS`. -/
def maxEvents : Nat := 80

/-- `SEPARATOR`, a tab. -/
def separator : Point := 9

/-- `UpdateJournalCodec.Entry`. -/
structure Entry where
  timestampMillis : Long
  event : Str
  detail : Str
deriving DecidableEq

/-! ### The codec -/

/-- `Long.toString()`. -/
def decimal (n : Long) : Str :=
  if n.val < 0 then 45 :: digits n.val.natAbs else digits n.val.natAbs

/-- The number as a `Long`, when it is one. -/
def toLong (n : Int) : Option Long :=
  if h : -2 ^ 63 ≤ n ∧ n < 2 ^ 63 then some ⟨n, h⟩ else none

/-- `String.toLongOrNull()`. A character before the digits can only be a sign. -/
def toLongOrNull (zeros : List Point) (text : Str) : Option Long :=
  match text with
  | [] => none
  | first :: later =>
    if first < 48 then
      if later = [] then none
      else if first = 45 then (readDigits zeros 0 later).bind fun n => toLong (-n)
      else if first = 43 then (readDigits zeros 0 later).bind fun n => toLong n
      else none
    else (readDigits zeros 0 (first :: later)).bind fun n => toLong n

/-- `String.isNotBlank()`. -/
def isNotBlank (line : Str) : Bool := line.any fun c => !isWhitespace c

/-- One character of `escape`. -/
def escapeChar (c : Point) : Str :=
  if c = 92 then [92, 92]
  else if c = 10 then [92, 110]
  else if c = 13 then [92, 114]
  else if c = 9 then [92, 116]
  else [c]

/-- `escape`. -/
def escape (value : Str) : Str := value.flatMap escapeChar

/-- The character after a backslash. -/
def unescapeNext (next : Point) : Str :=
  if next = 92 then [92]
  else if next = 110 then [10]
  else if next = 114 then [13]
  else if next = 116 then [9]
  else [92, next]

/-- `unescape`: a backslash takes the next character with it. -/
def unescape : Str → Str
  | [] => []
  | [c] => [c]
  | c :: next :: value =>
    if c ≠ 92 then c :: unescape (next :: value) else unescapeNext next ++ unescape value

/-- The line of an event. -/
def format (timestampMillis : Long) (event detail : Str) : Str :=
  decimal timestampMillis ++ separator :: (escape event ++ separator :: escape detail)

/-- `while (lines.size > MAX_EVENTS) lines.removeAt(0)`. -/
def removeOldest : List Str → List Str
  | [] => []
  | line :: lines => if maxEvents < lines.length + 1 then removeOldest lines else line :: lines

/-- `append`: the new line comes last, and the oldest ones go. -/
def append (existing : Str) (timestampMillis : Long) (event detail : Str) : Str :=
  unlines (removeOldest (((lines existing).filter isNotBlank) ++
    [format timestampMillis event detail]))

/-- One line of `parse`. -/
def parseLine (zeros : List Point) (line : Str) : Option Entry :=
  match line.splitOn separator with
  | timestamp :: event :: later =>
    (toLongOrNull zeros timestamp).map fun timestampMillis =>
      { timestampMillis := timestampMillis
        event := unescape event
        detail := (later.head?.map unescape).getD [] }
  | _ => none

/-- `parse`: blank lines and lines that do not parse are passed over. -/
def parse (zeros : List Point) (raw : Str) : List Entry :=
  ((lines raw).filter isNotBlank).filterMap (parseLine zeros)

/-! ### A field -/

variable {zeros : List Point} {c : Point} {value : Str}

/-- What separates fields and lines is hidden. -/
theorem ne_of_mem_escape (h : c ∈ escape value) : c ≠ 9 ∧ c ≠ 10 ∧ c ≠ 13 := by
  obtain ⟨d, -, hc⟩ := List.mem_flatMap.mp h
  rw [escapeChar] at hc
  split_ifs at hc with hmark hfeed hreturn htab
  · fin_cases hc <;> decide
  · fin_cases hc <;> decide
  · fin_cases hc <;> decide
  · fin_cases hc <;> decide
  · obtain rfl := List.mem_singleton.mp hc
    exact ⟨htab, hfeed, hreturn⟩

/-- A character that is no backslash stands for itself. -/
theorem unescape_cons (hc : c ≠ 92) (value : Str) :
    unescape (c :: value) = c :: unescape value := by
  cases value with
  | nil => rfl
  | cons next value => rw [unescape, if_pos hc]

/-- Un-escaping inverts escaping. -/
theorem unescape_escape (value : Str) : unescape (escape value) = value := by
  induction value with
  | nil => rfl
  | cons c value ih =>
    have hescape : escape (c :: value) = escapeChar c ++ escape value := List.flatMap_cons
    rw [hescape, escapeChar]
    split_ifs with hmark hfeed hreturn htab
    · rw [hmark]
      exact congrArg (92 :: ·) ih
    · rw [hfeed]
      exact congrArg (10 :: ·) ih
    · rw [hreturn]
      exact congrArg (13 :: ·) ih
    · rw [htab]
      exact congrArg (9 :: ·) ih
    · rw [List.singleton_append, unescape_cons hmark, ih]

/-- A `Long` is one. -/
theorem toLong_val (n : Long) : toLong n.val = some n := dif_pos n.property

/-- The digits of a `Long` are read back. -/
theorem toLongOrNull_decimal (zeros : List Point) (n : Long) :
    toLongOrNull zeros (decimal n) = some n := by
  rw [decimal]
  split
  · rename_i hneg
    rw [toLongOrNull, if_pos (by decide), if_neg (digits_ne_nil _), if_pos rfl,
      readDigits_digits, Option.bind_some]
    have hval : -(n.val.natAbs : Int) = n.val := by omega
    rw [hval, toLong_val]
  · rename_i hpos
    obtain ⟨first, later, hdigits⟩ := List.exists_cons_of_ne_nil (digits_ne_nil n.val.natAbs)
    have hfirst : 48 ≤ first :=
      (mem_digits (hdigits ▸ List.mem_cons_self : first ∈ digits n.val.natAbs)).1
    have hval : (n.val.natAbs : Int) = n.val := by omega
    rw [hdigits, toLongOrNull, if_neg (not_lt.mpr hfirst), ← hdigits, readDigits_digits,
      Option.bind_some, hval, toLong_val]

/-- They hold no tab and no end of a line. -/
theorem ne_of_mem_decimal {n : Long} (h : c ∈ decimal n) : c ≠ 9 ∧ c ≠ 10 ∧ c ≠ 13 := by
  have hrange : 45 ≤ c.val := by
    rw [decimal] at h
    split at h
    · rcases List.mem_cons.mp h with rfl | h
      · decide
      · exact le_trans (by decide) (mem_digits h).1
    · exact le_trans (by decide) (mem_digits h).1
  refine ⟨?_, ?_, ?_⟩
  · rintro rfl
    exact absurd hrange (by decide)
  · rintro rfl
    exact absurd hrange (by decide)
  · rintro rfl
    exact absurd hrange (by decide)

/-! ### A line -/

variable {ls : List Str} {entries : List Entry}

/-- The line of an entry. -/
def Entry.line (entry : Entry) : Str := format entry.timestampMillis entry.event entry.detail

/-- A line is its three fields with tabs between them. -/
theorem format_eq (timestampMillis : Long) (event detail : Str) :
    format timestampMillis event detail =
      [separator].intercalate [decimal timestampMillis, escape event, escape detail] := by
  simp [format, List.intercalate_cons_cons]

/-- A line has no end of a line within it. -/
theorem Entry.oneLine_line (entry : Entry) : OneLine entry.line := by
  have hfields (c : Point) (h : c ∈ entry.line) : c = 9 ∨ (c ≠ 9 ∧ c ≠ 10 ∧ c ≠ 13) := by
    rw [Entry.line, format, List.mem_append, List.mem_cons, List.mem_append, List.mem_cons] at h
    rcases h with h | h | h | h | h
    · exact .inr (ne_of_mem_decimal h)
    · exact .inl h
    · exact .inr (ne_of_mem_escape h)
    · exact .inl h
    · exact .inr (ne_of_mem_escape h)
  refine ⟨fun h => ?_, fun h => ?_⟩
  · rcases hfields 10 h with htab | hne
    · exact absurd htab (by decide)
    · exact hne.2.1 rfl
  · rcases hfields 13 h with htab | hne
    · exact absurd htab (by decide)
    · exact hne.2.2 rfl

/-- And is not blank. -/
theorem Entry.isNotBlank_line (entry : Entry) : isNotBlank entry.line := by
  obtain ⟨first, later, hdigits⟩ := List.exists_cons_of_ne_nil
    (digits_ne_nil entry.timestampMillis.val.natAbs)
  have hfirst := mem_digits (hdigits ▸ List.mem_cons_self :
    first ∈ digits entry.timestampMillis.val.natAbs)
  have hmem : first ∈ entry.line := by
    refine List.mem_append_left _ ?_
    rw [decimal, hdigits]
    split
    · exact List.mem_cons_of_mem _ List.mem_cons_self
    · exact List.mem_cons_self
  refine List.any_eq_true.mpr ⟨first, hmem, ?_⟩
  have hwhite : isWhitespace first = false := by
    simp only [isWhitespace, Bool.or_eq_false_iff, Bool.and_eq_false_iff, decide_eq_false_iff_not]
    omega
  rw [hwhite]
  rfl

/-- The line of an entry is read back. -/
theorem Entry.parseLine_line (entry : Entry) : parseLine zeros entry.line = some entry := by
  have hsplit : entry.line.splitOn separator =
      [decimal entry.timestampMillis, escape entry.event, escape entry.detail] := by
    rw [Entry.line, format_eq]
    refine List.splitOn_intercalate separator (fun field hfield hmem => ?_) (List.cons_ne_nil _ _)
    fin_cases hfield
    · exact (ne_of_mem_decimal hmem).1 rfl
    · exact (ne_of_mem_escape hmem).1 rfl
    · exact (ne_of_mem_escape hmem).1 rfl
  rw [parseLine, hsplit]
  simp [toLongOrNull_decimal, unescape_escape]

/-- The event of a line, if it has one. -/
def readLine (zeros : List Point) (line : Str) : Option Entry :=
  if isNotBlank line then parseLine zeros line else none

/-- It is read back as its entry. -/
theorem Entry.readLine_line (entry : Entry) : readLine zeros entry.line = some entry := by
  rw [readLine, if_pos entry.isNotBlank_line, entry.parseLine_line]

/-- `parse` reads every line, and keeps those that are entries. -/
theorem parse_eq (raw : Str) : parse zeros raw = (lines raw).filterMap (readLine zeros) :=
  List.filterMap_filter

/-! ### The journal -/

/-- The newest lines stay. -/
theorem removeOldest_eq (ls : List Str) : removeOldest ls = ls.rtake maxEvents := by
  induction ls with
  | nil => rfl
  | cons line ls ih =>
    rw [removeOldest, List.rtake, List.length_cons]
    split
    · rename_i hlt
      rw [ih, List.rtake, Nat.succ_sub (Nat.le_of_lt_succ hlt), List.drop_succ_cons]
    · rename_i hge
      rw [Nat.sub_eq_zero_of_le (not_lt.mp hge), List.drop_zero]

/-- The journal after these events. -/
def journal (entries : List Entry) : Str :=
  entries.foldl (fun journal entry => append journal entry.timestampMillis entry.event entry.detail)
    []

/-- `append` adds the line of an entry. -/
theorem journal_concat (entries : List Entry) (entry : Entry) :
    journal (entries ++ [entry]) =
      append (journal entries) entry.timestampMillis entry.event entry.detail := by
  rw [journal, List.foldl_append]
  rfl

/-- The lines of some entries are read back as these. -/
theorem filterMap_readLine (entries : List Entry) :
    (entries.map Entry.line).filterMap (readLine zeros) = entries := by
  rw [List.filterMap_map, (funext Entry.readLine_line : readLine zeros ∘ Entry.line = some),
    List.filterMap_some]

/-- A cut before one more entry does not show after it. -/
private theorem rtake_concat {α : Type*} (l : List α) (a : α) (n : Nat) :
    (l.rtake n ++ [a]).rtake n = (l ++ [a]).rtake n := by
  cases n with
  | zero => rw [List.rtake_zero, List.rtake_zero]
  | succ n =>
    rw [List.rtake_concat_succ, List.rtake_concat_succ, List.rtake_eq_reverse_take_reverse,
      List.rtake_eq_reverse_take_reverse, List.reverse_reverse, List.take_take,
      Nat.min_eq_left n.le_succ, ← List.rtake_eq_reverse_take_reverse]

/-- A cut of the images. -/
private theorem map_rtake {α β : Type*} (f : α → β) (l : List α) (n : Nat) :
    (l.map f).rtake n = (l.rtake n).map f := by
  rw [List.rtake, List.length_map, List.rtake, List.map_drop]

/-- The journal has one line for each of the newest events, and it has no line that is not blank
before the first event. -/
theorem lines_journal (entries : List Entry) :
    lines (journal entries) =
      if entries = [] then [[]] else (entries.rtake maxEvents).map Entry.line := by
  induction entries using List.reverseRecOn with
  | nil => rfl
  | append_singleton entries entry ih =>
    have hkept : (lines (journal entries)).filter isNotBlank =
        (entries.rtake maxEvents).map Entry.line := by
      rw [ih]
      split
      · rename_i hnil
        rw [hnil, List.rtake_nil]
        rfl
      · refine List.filter_eq_self.mpr fun line hline => ?_
        obtain ⟨entry, -, rfl⟩ := List.mem_map.mp hline
        exact entry.isNotBlank_line
    have hlines : removeOldest ((entries.rtake maxEvents).map Entry.line ++ [entry.line]) =
        ((entries ++ [entry]).rtake maxEvents).map Entry.line := by
      have hconcat : (entries.rtake maxEvents).map Entry.line ++ [entry.line] =
          (entries.rtake maxEvents ++ [entry]).map Entry.line := by
        rw [List.map_append, List.map_singleton]
      rw [removeOldest_eq, hconcat, map_rtake, rtake_concat]
    rw [if_neg (by simp), journal_concat, append, hkept]
    refine (congrArg (fun ls => lines (unlines ls)) hlines).trans (lines_unlines ?_ ?_)
    · intro line hline
      obtain ⟨entry, -, rfl⟩ := List.mem_map.mp hline
      exact entry.oneLine_line
    · rw [maxEvents, List.rtake_concat_succ]
      simp

/-- **The journal codec.** What was appended is read back, and a damaged line costs only its own
event. -/
theorem parse_journal (zeros : List Point) (entries : List Entry) :
    parse zeros (journal entries) = entries.rtake maxEvents ∧
      ∀ (i : Nat) (text : Str), i < (lines (journal entries)).length → OneLine text →
        ∃ extra : Option Entry,
          parse zeros (unlines ((lines (journal entries)).set i text)) =
            (entries.rtake maxEvents).take i ++ extra.toList ++
              (entries.rtake maxEvents).drop (i + 1) := by
  have hread (k : Nat) : ((lines (journal entries)).take k).filterMap (readLine zeros) =
      (entries.rtake maxEvents).take k ∧
      ((lines (journal entries)).drop k).filterMap (readLine zeros) =
        (entries.rtake maxEvents).drop k := by
    rw [lines_journal]
    split
    · rename_i hnil
      rw [hnil, List.rtake_nil]
      cases k with
      | zero => exact ⟨rfl, rfl⟩
      | succ k => cases k <;> exact ⟨rfl, rfl⟩
    · rw [← List.map_take, ← List.map_drop, filterMap_readLine, filterMap_readLine]
      exact ⟨rfl, rfl⟩
  have honeLine : ∀ line ∈ lines (journal entries), OneLine line := by
    intro line hline
    rw [lines_journal] at hline
    split at hline
    · rw [List.mem_singleton.mp hline]
      exact ⟨List.not_mem_nil, List.not_mem_nil⟩
    · obtain ⟨entry, -, rfl⟩ := List.mem_map.mp hline
      exact entry.oneLine_line
  refine ⟨?_, fun i text hi htext => ⟨readLine zeros text, ?_⟩⟩
  · rw [parse_eq]
    exact (hread 0).2
  · have hset : (lines (journal entries)).set i text =
        (lines (journal entries)).take i ++ text :: (lines (journal entries)).drop (i + 1) := by
      rw [List.set_eq_take_append_cons_drop, if_pos hi]
    have hne : (lines (journal entries)).set i text ≠ [] := by
      rw [hset]
      exact List.append_ne_nil_of_right_ne_nil _ (List.cons_ne_nil _ _)
    have hlines := lines_unlines (fun line hline => ?_) hne
    · rw [parse_eq, hlines, hset, List.filterMap_append, (hread i).1, List.append_assoc,
        List.append_right_inj, List.filterMap_cons]
      cases readLine zeros text with
      | none => exact (hread (i + 1)).2
      | some extra => exact congrArg (extra :: ·) (hread (i + 1)).2
    · rcases List.mem_or_eq_of_mem_set hline with hline | rfl
      · exact honeLine line hline
      · exact htext

/-- Two events, the first with a line break and a tab in its detail. -/
def twoEvents : List Entry :=
  [⟨⟨1700000000000, by decide⟩, ofString "INSTALL_CALLBACK", [97, 10, 9, 92]⟩,
    ⟨⟨1700000001000, by decide⟩, ofString "APP_ONCREATE", []⟩]

/-- A journal with a damaged line. -/
theorem parse_journal_twoEvents : ∃ extra : Option Entry,
    parse [] (unlines ((lines (journal twoEvents)).set 0 [63])) =
      (twoEvents.rtake maxEvents).take 0 ++ extra.toList ++ (twoEvents.rtake maxEvents).drop 1 :=
  (parse_journal [] twoEvents).2 0 [63] (by rw [lines_journal]; decide) (by decide)

end StylyMdm.Client.UpdateJournalCodec
