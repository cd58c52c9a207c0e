import StylyMdm.Files.Agreement
import StylyMdm.Files.Bundle

/-!
# Names of uploaded files

What `sanitize_relpath` makes of the names that a file system allows: it splits them at backslashes,
strips the segments and drops those that say nothing (`sanitizeRelpath_eq_some_iff`). A name that is
metadata of an operating system leaves a segment that is (`exists_metadata_of_metadata`), and
remains so in a browser, which replaces what is not Unicode text and escapes quotes and line ends in
the file names of a form.

A name goes through three hands. The **browser** reads it from a folder as a string of Unicode
(`usv`), so a lone surrogate becomes U+FFFD, and writes it into the header of a part with `%22`,
`%0D` and `%0A` for what would end the header's text (`formDataName`); nobody turns these back. The
**server** cleans what arrives. The **references** that a device is compared with are computed from
the names as they are on the disk. The lemmas say what each hand leaves alone: Unicode text
(`usv_join`), names without the three characters (`formDataName_eq_self`), and segments that are
clean already (`Kept`).
-/

namespace StylyMdm.Files

open Text

/-! ### Names -/

/-- A name that a file system allows. -/
structure LocalName (name : Str) : Prop where
  ne_nil : name ≠ []
  ne_dot : name ≠ dot
  ne_dotdot : name ≠ dotdot
  slash : slash ∉ name
  nul : 0 ∉ name

/-- What a browser makes of a name: a `USVString`, in which surrogates are replaced. -/
def usv (text : Str) : Str := text.map fun c => if isSurrogate c then 0xfffd else c

/-- What a browser writes for a character of a file name in `multipart/form-data`. -/
def escapeChar (c : Point) : Str :=
  if c = 34 then ofString "%22" else if c = 13 then ofString "%0D"
  else if c = 10 then ofString "%0A" else [c]

/-- The text of the `filename` parameter in `multipart/form-data`. -/
def formDataName (text : Str) : Str := text.flatMap escapeChar

/-- Does the form write the name as it is? -/
def Unescaped (text : Str) : Prop := 34 ∉ text ∧ 13 ∉ text ∧ 10 ∉ text

instance (text : Str) : Decidable (Unescaped text) := by
  unfold Unescaped
  infer_instance

/-! ### What `sanitize_relpath` keeps -/

/-- The segments of a name that `sanitize_relpath` keeps. -/
def keptSegments (text : Str) : List Str :=
  ((components (slashes text)).map (strip isSpace)).filter fun seg => seg ≠ [] ∧ seg ≠ dot

/-- Does `sanitize_relpath` accept the characters and segments? -/
def Acceptable (text : Str) : Prop :=
  0 ∉ slashes text ∧ dotdot ∉ (components (slashes text)).map (strip isSpace)

theorem foldlM_sanitizeSegment_eq_some_iff {segments acc parts : List Str} :
    segments.foldlM sanitizeSegment acc = some parts ↔
      dotdot ∉ segments.map (strip isSpace) ∧
        parts = acc ++ (segments.map (strip isSpace)).filter fun seg => seg ≠ [] ∧ seg ≠ dot := by
  induction segments generalizing acc with
  | nil => simp [eq_comm]
  | cons segment segments ih =>
    rw [List.foldlM_cons, Option.bind_eq_bind, Option.bind_eq_some_iff, List.map_cons,
      List.mem_cons, not_or, sanitizeSegment]
    split_ifs with hskip hdots
    · -- the segment is dropped, and it is not `..`
      have hne : dotdot ≠ strip isSpace segment := by
        rintro heq
        rcases hskip with hskip | hskip
        · exact absurd (heq.trans hskip) (by decide)
        · exact absurd (heq.trans hskip) (by decide)
      have hdrop : ¬ (strip isSpace segment ≠ [] ∧ strip isSpace segment ≠ dot) := by tauto
      simp [ih, hne, hdrop]
    · simp [hdots]
    · have hkeep : strip isSpace segment ≠ [] ∧ strip isSpace segment ≠ dot := by tauto
      simp [ih, hkeep, Ne.symm hdots]

theorem sanitizeRelpath_eq_some_iff {text relative : Str} :
    sanitizeRelpath (some text) = some relative ↔
      Acceptable text ∧ keptSegments text ≠ [] ∧ relative = join (keptSegments text) := by
  have hempty : keptSegments [] = [] := by decide
  rw [sanitizeRelpath.eq_def, Acceptable]
  simp only
  split_ifs with hnil hnul
  · simp [hnil, hempty]
  · simp [hnul]
  · have hfold := @foldlM_sanitizeSegment_eq_some_iff (components (slashes text)) []
    simp only [List.nil_append] at hfold
    split
    · rename_i hnone
      refine ⟨fun h => absurd h (by simp), fun h => ?_⟩
      rw [hfold.mpr ⟨h.1.2, rfl⟩] at hnone
      exact absurd hnone (by simp)
    · rename_i parts hsome
      obtain ⟨hdots, hparts⟩ := hfold.mp hsome
      rw [← keptSegments] at hparts
      rw [hparts]
      split_ifs with hkept
      · simp [hkept]
      · simp [hnul, hdots, hkept, eq_comm]

theorem components_slashes_join {path : List Str} (hne : path ≠ []) :
    components (slashes (join path)) = path.flatMap fun part => components (slashes part) := by
  induction path with
  | nil => exact absurd rfl hne
  | cons part path ih =>
    rcases path with _ | ⟨next, path⟩
    · rw [join, List.intercalate_singleton, List.flatMap_cons, List.flatMap_nil, List.append_nil]
    · have hslash : slashes (part ++ slash :: join (next :: path)) =
          slashes part ++ slash :: slashes (join (next :: path)) := by
        rw [slashes, slashes, slashes, List.map_append, List.map_cons, if_neg (by decide)]
      rw [join_cons_cons, hslash, components_append_slash, ih (List.cons_ne_nil _ _)]
      rfl

theorem keptSegments_join {path : List Str} (hne : path ≠ []) :
    keptSegments (join path) = path.flatMap keptSegments := by
  rw [keptSegments, components_slashes_join hne, List.map_flatMap, List.filter_flatMap]
  rfl

theorem nul_mem_slashes_iff {text : Str} : 0 ∈ slashes text ↔ 0 ∈ text := by
  rw [slashes, List.mem_map]
  constructor
  · rintro ⟨c, hc, heq⟩
    split_ifs at heq with hback
    · exact absurd heq (by decide)
    · exact heq ▸ hc
  · intro h
    exact ⟨0, h, by decide⟩

theorem acceptable_join_iff {path : List Str} (hne : path ≠ []) :
    Acceptable (join path) ↔ ∀ part ∈ path, Acceptable part := by
  have hnul : 0 ∉ join path ↔ ∀ part ∈ path, (0 : Point) ∉ part := by
    constructor
    · exact fun h part hpart hmem => h (subset_join hpart hmem)
    · intro h hmem
      rcases mem_join hmem with heq | ⟨part, hpart, hmem⟩
      · exact absurd heq (by decide)
      · exact h part hpart hmem
  have hdots : dotdot ∉ (components (slashes (join path))).map (strip isSpace) ↔
      ∀ part ∈ path, dotdot ∉ (components (slashes part)).map (strip isSpace) := by
    rw [components_slashes_join hne, List.map_flatMap, List.mem_flatMap]
    push Not
    rfl
  simp only [Acceptable, nul_mem_slashes_iff, hnul, hdots]
  exact forall₂_and.symm

/-- A name that `sanitize_relpath` leaves as it is. -/
def Kept (part : Str) : Prop := strip isSpace part = part ∧ backslash ∉ part

instance (part : Str) : Decidable (Kept part) := by
  unfold Kept
  infer_instance

theorem LocalName.components_slashes {part : Str} (h : LocalName part) (hkept : Kept part) :
    (components (slashes part)).map (strip isSpace) = [part] := by
  have hcomponents : components part = [part] := by
    have hjoin := @components_join [part] (by simpa using h.slash) (by simp)
    rwa [join, List.intercalate_singleton] at hjoin
  rw [slashes_eq_self hkept.2, hcomponents, List.map_singleton, hkept.1]

theorem LocalName.keptSegments {part : Str} (h : LocalName part) (hkept : Kept part) :
    keptSegments part = [part] := by
  rw [Files.keptSegments, h.components_slashes hkept, List.filter_singleton]
  simp [h.ne_nil, h.ne_dot]

theorem LocalName.acceptable {part : Str} (h : LocalName part) (hkept : Kept part) :
    Acceptable part := by
  rw [Acceptable, h.components_slashes hkept, nul_mem_slashes_iff, List.mem_singleton]
  exact ⟨h.nul, Ne.symm h.ne_dotdot⟩

theorem slash_not_mem_of_mem_keptSegments {text seg : Str} (h : seg ∈ keptSegments text) :
    slash ∉ seg := by
  rw [Files.keptSegments, List.mem_filter] at h
  obtain ⟨part, hpart, rfl⟩ := List.mem_map.mp h.1
  exact fun hmem => slash_not_mem_of_mem_components hpart ((strip_sublist isSpace part).subset hmem)

/-- The segments that are kept stay as they are. -/
theorem kept_of_mem_keptSegments {text seg : Str} (h : seg ∈ keptSegments text) : Kept seg := by
  rw [Files.keptSegments, List.mem_filter] at h
  obtain ⟨part, hpart, rfl⟩ := List.mem_map.mp h.1
  refine ⟨strip_strip, fun hmem => backslash_not_mem_slashes text ?_⟩
  exact subset_of_mem_components hpart ((strip_sublist isSpace part).subset hmem)

/-! ### Metadata of the operating systems -/

/-- The test of `is_os_metadata` for one segment. -/
def osMetadataName (seg : Str) : Bool :=
  let low := seg.map lower
  low ∈ excludedNames || low ∈ excludedDirs || (ofString "._").isPrefixOf low ||
    (ofString ".trash-").isPrefixOf low

theorem isOsMetadata_join {path : List Str} (hslash : ∀ part ∈ path, slash ∉ part)
    (hne : path ≠ []) : isOsMetadata (join path) = path.any osMetadataName := by
  rw [isOsMetadata, components_join hslash hne]
  rfl

/-- The names that are metadata, and the beginnings of such names. -/
def metadataMarks : List Str :=
  excludedNames ++ excludedDirs ++ [ofString "._", ofString ".trash-"]

/-- A character that neither the clean-up of names nor a browser changes. -/
def plain (c : Point) : Bool := !isSpace c && c ≠ slash && c ≠ backslash && c.val < 128

theorem plain_of_mem_metadataMarks :
    ∀ mark ∈ metadataMarks, mark ≠ [] ∧ mark ≠ dot ∧ mark.all plain := by
  decide +kernel

theorem lower_eq_self_of_isSpace {c : Point} (h : isSpace c) : lower c = c := by
  simp only [isSpace, isWhitespace, Bool.or_eq_true, Bool.and_eq_true, decide_eq_true_iff] at h
  rw [lower, dif_neg (by omega), if_neg (by omega)]

theorem plain_of_plain_lower {c : Point} (h : plain (lower c)) :
    isSpace c = false ∧ c ≠ slash ∧ c ≠ backslash := by
  simp only [plain, Bool.and_eq_true, Bool.not_eq_true', decide_eq_true_iff] at h
  obtain ⟨⟨⟨hspace, hslash⟩, hback⟩, -⟩ := h
  refine ⟨?_, ?_, ?_⟩
  · by_contra hc
    rw [Bool.not_eq_false] at hc
    rw [lower_eq_self_of_isSpace hc, hc] at hspace
    exact absurd hspace (by simp)
  · rintro rfl
    exact hslash (by decide)
  · rintro rfl
    exact hback (by decide)

/-- Surrogates are not near the marks, and neither is what replaces them. -/
theorem lower_replace_eq_iff {a c : Point} (h : plain a) :
    lower (if isSurrogate c then 0xfffd else c) = a ↔ lower c = a := by
  by_cases hc : isSurrogate c
  · have hsurrogate : 0xd800 ≤ c.val ∧ c.val ≤ 0xdfff := by
      simpa [isSurrogate] using hc
    have hself : lower c = c := by
      rw [lower, dif_neg (by omega), if_neg (by omega)]
    have ha : a.val < 128 := by
      simp only [plain, Bool.and_eq_true, decide_eq_true_iff] at h
      exact h.2
    rw [if_pos hc, hself]
    constructor
    · rintro rfl
      exact absurd ha (by decide)
    · rintro rfl
      omega
  · rw [if_neg hc]

theorem prefix_map_iff {α β : Type*} {f g : α → β} {mark : List β}
    (h : ∀ a ∈ mark, ∀ c, f c = a ↔ g c = a) (l : List α) :
      mark <+: l.map f ↔ mark <+: l.map g := by
  induction mark generalizing l with
  | nil => simp
  | cons a mark ih =>
    rw [List.forall_mem_cons] at h
    rcases l with _ | ⟨c, l⟩
    · simp
    · rw [List.map_cons, List.map_cons, List.cons_prefix_cons, List.cons_prefix_cons, ih h.2,
        eq_comm, h.1 c, eq_comm]

/-- The test only asks which marks a name in lower case starts with, and which it is. -/
theorem osMetadataName_iff {seg : Str} : osMetadataName seg ↔ ∃ mark ∈ metadataMarks,
    mark <+: seg.map lower ∧ (mark ∈ excludedNames ++ excludedDirs → mark.length = seg.length) := by
  have hprefixes : ofString "._" ∉ excludedNames ++ excludedDirs ∧
      ofString ".trash-" ∉ excludedNames ++ excludedDirs := by decide +kernel
  have hequal : ∀ mark : Str, seg.map lower = mark ↔
      mark <+: seg.map lower ∧ mark.length = seg.length := by
    intro mark
    constructor
    · rintro rfl
      exact ⟨List.prefix_refl _, List.length_map _⟩
    · rintro ⟨hpre, hlen⟩
      exact (hpre.eq_of_length (by rw [hlen, List.length_map])).symm
  rw [osMetadataName]
  simp only [Bool.or_eq_true, decide_eq_true_iff, List.isPrefixOf_iff_prefix]
  constructor
  · rintro (((hmem | hmem) | hpre) | hpre)
    · exact ⟨_, List.mem_append_left _ (List.mem_append_left _ hmem), List.prefix_refl _,
        fun _ => List.length_map _⟩
    · exact ⟨_, List.mem_append_left _ (List.mem_append_right _ hmem), List.prefix_refl _,
        fun _ => List.length_map _⟩
    · exact ⟨_, List.mem_append_right _ (by simp), hpre, fun hmem => absurd hmem hprefixes.1⟩
    · exact ⟨_, List.mem_append_right _ (by simp), hpre, fun hmem => absurd hmem hprefixes.2⟩
  · rintro ⟨mark, hmark, hpre, hlen⟩
    rcases List.mem_append.mp hmark with hmem | hmem
    · have heq := (hequal mark).mpr ⟨hpre, hlen hmem⟩
      rcases List.mem_append.mp hmem with hmem | hmem
      · exact .inl (.inl (.inl (heq ▸ hmem)))
      · exact .inl (.inl (.inr (heq ▸ hmem)))
    · rcases List.mem_cons.mp hmem with rfl | hmem
      · exact .inl (.inr hpre)
      · rw [List.mem_singleton] at hmem
        exact .inr (hmem ▸ hpre)

theorem osMetadataName_usv (seg : Str) : osMetadataName (usv seg) = osMetadataName seg := by
  rw [Bool.eq_iff_iff, osMetadataName_iff, osMetadataName_iff]
  refine exists_congr fun mark => and_congr_right fun hmark => ?_
  have hplain := (plain_of_mem_metadataMarks mark hmark).2.2
  rw [List.all_eq_true] at hplain
  have hlength : (usv seg).length = seg.length := List.length_map _
  have hiff := prefix_map_iff (fun a ha c => @lower_replace_eq_iff a c (hplain a ha)) seg
  rw [hlength, usv, List.map_map]
  exact and_congr_left fun _ => hiff

/-- What a name begins with stays when no character of it is changed. -/
theorem exists_keptSegment {before after : Str} (hne : before ≠ []) (hdot : before ≠ dot)
    (hplain : ∀ c ∈ before, isSpace c = false ∧ c ≠ slash ∧ c ≠ backslash) :
    ∃ rest, before ++ rest ∈ keptSegments (before ++ after) ∧ (after = [] → rest = []) := by
  obtain ⟨head, tail, hparts⟩ := List.exists_cons_of_ne_nil (components_ne_nil (slashes after))
  have hslashes : slashes (before ++ after) = before ++ slashes after := by
    have hbefore : slashes before = before :=
      slashes_eq_self fun hmem => (hplain _ hmem).2.2 rfl
    conv_rhs => rw [← hbefore]
    exact List.map_append
  have hnoslash : ∀ part ∈ (before ++ head) :: tail, slash ∉ part := by
    have hall : ∀ part ∈ head :: tail, slash ∉ part := fun part hpart =>
      slash_not_mem_of_mem_components (hparts ▸ hpart)
    intro part hpart
    rcases List.mem_cons.mp hpart with rfl | hpart
    · rw [List.mem_append, not_or]
      exact ⟨fun hmem => (hplain _ hmem).2.1 rfl, hall head List.mem_cons_self⟩
    · exact hall part (List.mem_cons_of_mem _ hpart)
  have hcomponents : components (slashes (before ++ after)) = (before ++ head) :: tail := by
    have hjoin : before ++ slashes after = join ((before ++ head) :: tail) := by
      rw [← join_components (slashes after), hparts]
      rcases tail with _ | ⟨next, tail⟩
      · rw [join, List.intercalate_singleton, join, List.intercalate_singleton]
      · rw [join_cons_cons, join_cons_cons, List.append_assoc]
    rw [hslashes, hjoin, components_join hnoslash (List.cons_ne_nil _ _)]
  -- neither end of the beginning is stripped
  obtain hnil | ⟨init, c, hconcat⟩ := List.eq_nil_or_concat before
  · exact absurd hnil hne
  rw [List.concat_eq_append] at hconcat
  have hstrip : strip isSpace (before ++ head) = before ++ head.rdropWhile isSpace := by
    have hinit : init.dropWhile isSpace = init := by
      rw [List.dropWhile_eq_self_iff]
      intro hpos
      have hmem : init[0] ∈ before := hconcat ▸ List.mem_append_left _ (List.getElem_mem hpos)
      rw [(hplain _ hmem).1]
      exact Bool.false_ne_true
    have hc : ¬ isSpace c := by
      rw [(hplain c (hconcat ▸ by simp)).1]
      exact Bool.false_ne_true
    rw [hconcat, List.append_assoc, List.singleton_append, strip_append_of_head hc, hinit,
      List.append_assoc, List.singleton_append]
  refine ⟨head.rdropWhile isSpace, ?_, ?_⟩
  · rw [keptSegments, hcomponents, List.map_cons, hstrip, List.mem_filter]
    refine ⟨List.mem_cons_self, decide_eq_true ⟨by simp [hne], fun heq => ?_⟩⟩
    have hpre : before <+: dot := heq ▸ List.prefix_append _ _
    rw [dot, List.prefix_cons_iff] at hpre
    rcases hpre with hnil | ⟨rest, hrest, hpre⟩
    · exact hne hnil
    · rw [List.prefix_nil.mp hpre] at hrest
      exact hdot hrest
  · rintro rfl
    have hhead : head = [] := by
      have hnil : components (slashes []) = [[]] := by decide
      rw [hnil] at hparts
      exact (List.cons.inj hparts).1.symm
    rw [hhead, List.rdropWhile_nil]

/-- A name that is metadata leaves a segment that is metadata. -/
theorem exists_metadata_of_metadata {part : Str} (h : osMetadataName part) :
    ∃ seg ∈ keptSegments part, osMetadataName seg := by
  obtain ⟨mark, hmark, hpre, hlen⟩ := osMetadataName_iff.mp h
  obtain ⟨hne, hdot, hplain⟩ := plain_of_mem_metadataMarks mark hmark
  rw [List.all_eq_true] at hplain
  have hmap : (part.take mark.length).map lower = mark := by
    rw [List.map_take, ← List.prefix_iff_eq_take.mp hpre]
  have hbefore : ∀ c ∈ part.take mark.length, isSpace c = false ∧ c ≠ slash ∧ c ≠ backslash := by
    intro c hc
    exact plain_of_plain_lower (hplain _ (hmap ▸ List.mem_map_of_mem hc))
  obtain ⟨rest, hrest, hnil⟩ := @exists_keptSegment _ (part.drop mark.length)
    (fun hnil => hne (by rw [← hmap, hnil, List.map_nil]))
    (fun heq => hdot (by rw [← hmap, heq]; decide)) hbefore
  rw [List.take_append_drop] at hrest
  refine ⟨_, hrest, osMetadataName_iff.mpr ⟨mark, hmark, ?_, fun hmem => ?_⟩⟩
  · rw [List.map_append, hmap]
    exact List.prefix_append _ _
  · have hle := hlen hmem
    rw [hnil (List.drop_eq_nil_of_le (by omega)), List.append_nil, List.length_take]
    omega

/-! ### Names in a browser -/

theorem usv_join (path : List Str) : usv (join path) = join (path.map usv) := by
  induction path with
  | nil => rfl
  | cons part path ih =>
    rcases path with _ | ⟨next, path⟩
    · rw [join, List.intercalate_singleton, List.map_singleton, join, List.intercalate_singleton]
    · have hslash : usv (part ++ slash :: join (next :: path)) =
          usv part ++ slash :: usv (join (next :: path)) := by
        rw [usv, usv, usv, List.map_append, List.map_cons, if_neg (by decide)]
      rw [join_cons_cons, hslash, ih]
      simp only [List.map_cons, join_cons_cons]

theorem slash_mem_usv_iff {text : Str} : slash ∈ usv text ↔ slash ∈ text := by
  rw [usv, List.mem_map]
  constructor
  · rintro ⟨c, hc, heq⟩
    split_ifs at heq with hsurrogate
    · exact absurd heq (by decide)
    · exact heq ▸ hc
  · intro h
    exact ⟨slash, h, by decide⟩

/-! ### Names in a form -/

theorem unescaped_iff {text : Str} : Unescaped text ↔ ∀ c ∈ text, c ≠ 34 ∧ c ≠ 13 ∧ c ≠ 10 := by
  simp only [Unescaped, forall_and, List.forall_mem_ne']

theorem escapeChar_eq_singleton {c : Point} (h : c ≠ 34 ∧ c ≠ 13 ∧ c ≠ 10) :
    escapeChar c = [c] := by
  rw [escapeChar, if_neg h.1, if_neg h.2.1, if_neg h.2.2]

theorem formDataName_eq_self {text : Str} (h : Unescaped text) : formDataName text = text := by
  rw [formDataName,
    List.flatMap_congr fun c hc => escapeChar_eq_singleton (unescaped_iff.mp h c hc),
    List.flatMap_singleton']

theorem unescaped_formDataName (text : Str) : Unescaped (formDataName text) := by
  rw [unescaped_iff]
  intro c hc
  obtain ⟨d, -, hc⟩ := List.mem_flatMap.mp hc
  have hmarks : ∀ mark ∈ [ofString "%22", ofString "%0D", ofString "%0A"], Unescaped mark := by
    decide +kernel
  rw [escapeChar] at hc
  split_ifs at hc with hquote hreturn hfeed
  · exact unescaped_iff.mp (hmarks _ (by simp)) c hc
  · exact unescaped_iff.mp (hmarks _ (by simp)) c hc
  · exact unescaped_iff.mp (hmarks _ (by simp)) c hc
  · rw [List.mem_singleton.mp hc]
    exact ⟨hquote, hreturn, hfeed⟩

theorem formDataName_join (path : List Str) :
    formDataName (join path) = join (path.map formDataName) := by
  induction path with
  | nil => rfl
  | cons part path ih =>
    rcases path with _ | ⟨next, path⟩
    · rw [join, List.intercalate_singleton, List.map_singleton, join, List.intercalate_singleton]
    · have hslash : formDataName (part ++ slash :: join (next :: path)) =
          formDataName part ++ slash :: formDataName (join (next :: path)) := by
        rw [formDataName, List.flatMap_append, List.flatMap_cons,
          escapeChar_eq_singleton (c := slash) (by decide)]
        rfl
      rw [join_cons_cons, hslash, ih]
      simp only [List.map_cons, join_cons_cons]

/-- A name that is metadata remains so in a form. -/
theorem osMetadataName_formDataName {seg : Str} (h : osMetadataName seg) :
    osMetadataName (formDataName seg) := by
  obtain ⟨mark, hmark, hpre, hlen⟩ := osMetadataName_iff.mp h
  have hmarks : ∀ mark ∈ metadataMarks, Unescaped mark := by decide +kernel
  have hlower : lower 34 = 34 ∧ lower 13 = 13 ∧ lower 10 = 10 := by decide +kernel
  have hmap : (seg.take mark.length).map lower = mark := by
    rw [List.map_take, ← List.prefix_iff_eq_take.mp hpre]
  have hbefore : formDataName (seg.take mark.length) = seg.take mark.length := by
    refine formDataName_eq_self (unescaped_iff.mpr fun c hc => ?_)
    have hmem := unescaped_iff.mp (hmarks mark hmark) (lower c) (hmap ▸ List.mem_map_of_mem hc)
    refine ⟨?_, ?_, ?_⟩
    · rintro rfl
      exact hmem.1 hlower.1
    · rintro rfl
      exact hmem.2.1 hlower.2.1
    · rintro rfl
      exact hmem.2.2 hlower.2.2
  have hsplit : formDataName seg =
      seg.take mark.length ++ formDataName (seg.drop mark.length) := by
    conv_lhs => rw [← List.take_append_drop mark.length seg]
    rw [formDataName, List.flatMap_append]
    exact congrArg (· ++ formDataName (seg.drop mark.length)) hbefore
  rw [osMetadataName_iff]
  refine ⟨mark, hmark, ?_, fun hmem => ?_⟩
  · rw [hsplit, List.map_append, hmap]
    exact List.prefix_append _ _
  · rw [hsplit, List.drop_eq_nil_of_le (hlen hmem).ge, List.length_append, List.length_take,
      min_eq_left (hlen hmem).le]
    rfl

/-- Nothing that a form escapes is in a segment that is kept of a name in it. -/
theorem unescaped_of_mem_keptSegments {text seg : Str} (h : Unescaped text)
    (hseg : seg ∈ keptSegments text) : Unescaped seg := by
  rw [keptSegments, List.mem_filter] at hseg
  obtain ⟨part, hpart, rfl⟩ := List.mem_map.mp hseg.1
  rw [unescaped_iff]
  intro c hc
  have hmem := subset_of_mem_components hpart ((strip_sublist isSpace part).subset hc)
  obtain ⟨d, hd, heq⟩ := List.mem_map.mp hmem
  split_ifs at heq with hback
  · rw [← heq]
    decide
  · rw [← heq]
    exact unescaped_iff.mp h d hd

end StylyMdm.Files
