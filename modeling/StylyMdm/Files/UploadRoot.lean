import StylyMdm.Library.PurePath
import StylyMdm.Files.Names
import StylyMdm.Files.RoundTrip

/-!
# Names below the upload root

What `sanitize_relpath` promises of the names it returns. They are canonical: nothing in them is
special to a file system or would be stripped again, `strip_common_root` keeps them so, and the
client takes them as they are (`KeptPath.canonical`). And they stay below the directory they are
joined to, unless the server runs on Windows and a segment begins with a drive, which nothing
rejects (`upload_paths`).

The destination of a file is `joinpath` of the upload root with the segments of its name. The two
flavours of `pathlib` are those of `Library.PurePath`, so the statement is about POSIX and about
Windows with any set of drives, before and after Python 3.12. On POSIX the condition on drives
(`Driveless`) holds of every name.

The names of one upload are also different from each other after the common root was dropped
(`stripCommonRoot_nodup`), which is what the archive needs.
-/

namespace StylyMdm.Files

open Text Pathlib

/-! ### Canonical names -/

/-- What holds of a name on every system. -/
structure Canonical (path : Str) : Prop where
  parts : ∀ part ∈ components path, part ≠ [] ∧ part ≠ dot ∧ part ≠ dotdot
  backslash : backslash ∉ path
  nul : 0 ∉ path
  ends : ∀ part ∈ components path,
    (∀ c ∈ part.head?, ¬ isSpace c) ∧ ∀ c ∈ part.getLast?, ¬ isSpace c
  sanitized : sanitizeRelpath (some path) = some path
  accepted : validateEntryName path = .ok path

/-- The components of a canonical name. -/
def KeptPath (path : List Str) : Prop := SafePath path ∧ ∀ part ∈ path, Kept part

theorem SafeName.localName {part : Str} (h : SafeName part) : LocalName part :=
  ⟨h.ne_nil, h.ne_dot, h.ne_dotdot, h.slash, h.nul⟩

theorem Kept.ends {part : Str} (h : Kept part) :
    (∀ c ∈ part.head?, ¬ isSpace c) ∧ ∀ c ∈ part.getLast?, ¬ isSpace c := by
  constructor
  · intro c hc
    rw [← h.1] at hc
    exact not_of_head?_strip hc
  · intro c hc
    rw [← h.1] at hc
    exact not_of_getLast?_strip hc

theorem KeptPath.keptSegments_join {path : List Str} (h : KeptPath path) :
    keptSegments (join path) = path := by
  have hpart : ∀ part ∈ path, keptSegments part = [part] := fun part hmem =>
    (h.1.2 part hmem).localName.keptSegments (h.2 part hmem)
  rw [Files.keptSegments_join h.1.1, List.flatMap_congr hpart, List.flatMap_singleton']

theorem KeptPath.canonical {path : List Str} (h : KeptPath path) : Canonical (join path) := by
  have hcomponents := h.1.components_join
  refine ⟨?_, h.1.backslash_not_mem, h.1.nul_not_mem, ?_, ?_, validateEntryName_join h.1⟩
  · rw [hcomponents]
    intro part hpart
    have hsafe := h.1.2 part hpart
    exact ⟨hsafe.ne_nil, hsafe.ne_dot, hsafe.ne_dotdot⟩
  · rw [hcomponents]
    exact fun part hpart => (h.2 part hpart).ends
  · have hacceptable : Acceptable (join path) :=
      (acceptable_join_iff h.1.1).mpr fun part hpart =>
        (h.1.2 part hpart).localName.acceptable (h.2 part hpart)
    rw [sanitizeRelpath_eq_some_iff, h.keptSegments_join]
    exact ⟨hacceptable, h.1.1, rfl⟩

theorem components_of_sanitized {text path : Str}
    (h : sanitizeRelpath (some text) = some path) : components path = keptSegments text := by
  obtain ⟨-, hne, rfl⟩ := sanitizeRelpath_eq_some_iff.mp h
  exact components_join (fun part => slash_not_mem_of_mem_keptSegments) hne

theorem keptPath_of_sanitized {raw : Option Str} {path : Str}
    (h : sanitizeRelpath raw = some path) : KeptPath (components path) := by
  refine ⟨(sanitizeRelpath_spec h).1, fun part hpart => ?_⟩
  rcases raw with _ | text
  · exact nomatch h
  · rw [components_of_sanitized h] at hpart
    exact kept_of_mem_keptSegments hpart

/-! ### Without the common root -/

theorem eq_firstSegment_append {path : Str} (h : slash ∈ path) :
    path = firstSegment path ++ slash :: laterSegments path := by
  have hrest : path.dropWhile (fun c => decide (c ≠ slash)) = slash :: laterSegments path := by
    obtain ⟨before, after, rfl, hbefore⟩ := List.eq_append_cons_of_mem h
    have hne : ∀ c ∈ before, decide (c ≠ slash) = true := by
      intro c hc
      rw [decide_eq_true_iff]
      rintro rfl
      exact hbefore hc
    rw [laterSegments, List.dropWhile_append_of_pos hne, List.dropWhile_cons_of_neg (by simp),
      List.drop_one, List.tail_cons]
  conv_lhs => rw [← List.takeWhile_append_dropWhile (l := path) (p := fun c => decide (c ≠ slash))]
  rw [hrest, firstSegment]

theorem components_eq_cons {path : Str} (h : slash ∈ path) :
    components path = firstSegment path :: components (laterSegments path) := by
  have hfirst : slash ∉ firstSegment path := by
    intro hmem
    have hne := List.mem_takeWhile_imp hmem
    exact of_decide_eq_true hne rfl
  have hsingle : components (firstSegment path) = [firstSegment path] := by
    have hjoin := @components_join [firstSegment path] (by simpa using hfirst) (by simp)
    rwa [join, List.intercalate_singleton] at hjoin
  conv_lhs => rw [eq_firstSegment_append h, components_append_slash, hsingle]
  rfl

/-- Either nothing changes, or all paths lose the same first segment. -/
theorem stripCommonRoot_cases (paths : List Str) :
    (stripCommonRoot paths).2 = paths ∨
      (∃ root, ∀ path ∈ paths, slash ∈ path ∧ firstSegment path = root) ∧
        (stripCommonRoot paths).2 = paths.map laterSegments := by
  rw [stripCommonRoot]
  split_ifs with hnone
  · exact .inl rfl
  · rw [not_or] at hnone
    push Not at hnone
    split
    · rename_i root hdups
      refine .inr ⟨⟨root, fun path hpath => ⟨hnone.2 path hpath, ?_⟩⟩, rfl⟩
      have hfirst : firstSegment path ∈ (paths.map firstSegment).eraseDups :=
        List.mem_eraseDups.mpr (List.mem_map_of_mem hpath)
      rw [hdups, List.mem_singleton] at hfirst
      exact hfirst
    · exact .inl rfl

theorem stripCommonRoot_nodup {paths : List Str} (h : paths.Nodup) :
    (stripCommonRoot paths).2.Nodup := by
  rcases stripCommonRoot_cases paths with heq | ⟨⟨root, hroot⟩, heq⟩
  · rw [heq]
    exact h
  · rw [heq]
    refine List.Nodup.map_on ?_ h
    intro path hpath path' hpath' hlater
    rw [eq_firstSegment_append (hroot path hpath).1, eq_firstSegment_append (hroot path' hpath').1,
      (hroot path hpath).2, (hroot path' hpath').2, hlater]

/-- What remains of a path ends the path. -/
theorem exists_suffix_of_mem_stripCommonRoot {paths : List Str} {stripped : Str}
    (h : stripped ∈ (stripCommonRoot paths).2) :
    ∃ path ∈ paths, components stripped <:+ components path := by
  rcases stripCommonRoot_cases paths with heq | ⟨⟨root, hroot⟩, heq⟩
  · rw [heq] at h
    exact ⟨stripped, h, List.suffix_refl _⟩
  · rw [heq] at h
    obtain ⟨path, hpath, rfl⟩ := List.mem_map.mp h
    refine ⟨path, hpath, ?_⟩
    rw [components_eq_cons (hroot path hpath).1]
    exact List.suffix_cons _ _

theorem KeptPath.of_suffix {path path' : List Str} (h : KeptPath path) (hsuffix : path' <:+ path)
    (hne : path' ≠ []) : KeptPath path' :=
  ⟨⟨hne, fun part hpart => h.1.2 part (hsuffix.subset hpart)⟩,
    fun part hpart => h.2 part (hsuffix.subset hpart)⟩

/-! ### Below the upload root -/

variable {flavour : Flavour}

/-- `upload_root.joinpath(*relative.split("/"))`, as `upload_handler` calls it. -/
def uploadDestination (flavour : Flavour) (uploadRoot : PurePath) (relative : Str) : PurePath :=
  flavour.joinpath uploadRoot (components relative)

/-- A canonical name that stays below every directory it is joined to. -/
def UploadPath (flavour : Flavour) (path : Str) : Prop :=
  Canonical path ∧
    ∀ uploadRoot, flavour.IsBelow uploadRoot (uploadDestination flavour uploadRoot path)

/-- No segment of the name in the request begins with a drive. -/
def Driveless (flavour : Flavour) (raw : Option Str) : Prop :=
  ∀ text ∈ raw, ∀ segment ∈ components (slashes text), flavour.drive (strip isSpace segment) = []

theorem KeptPath.uploadPath_iff {path : Str} (h : KeptPath (components path)) :
    UploadPath flavour path ↔ ∀ part ∈ components path, flavour.drive part = [] := by
  constructor
  · rintro ⟨-, hbelow⟩
    by_contra hdrive
    push Not at hdrive
    obtain ⟨uploadRoot, hout⟩ := Flavour.exists_not_isBelow hdrive
    exact hout (hbelow uploadRoot)
  · intro hdrive
    refine ⟨join_components path ▸ h.canonical, fun uploadRoot => ?_⟩
    refine Flavour.isBelow_joinpath h.1.1 fun part hpart => ?_
    have hsafe := h.1.2 part hpart
    exact ⟨hdrive part hpart, hsafe.ne_nil, hsafe.ne_dot, hsafe.ne_dotdot⟩

/-- The segments that are dropped have no drive. -/
theorem driveless_iff {raw : Option Str} {path : Str} (h : sanitizeRelpath raw = some path) :
    Driveless flavour raw ↔ ∀ part ∈ components path, flavour.drive part = [] := by
  rcases raw with _ | text
  · exact nomatch h
  · rw [components_of_sanitized h, keptSegments]
    constructor
    · intro hdriveless part hpart
      obtain ⟨segment, hsegment, rfl⟩ := List.mem_map.mp (List.mem_filter.mp hpart).1
      exact hdriveless text rfl segment hsegment
    · intro hkept text' htext segment hsegment
      obtain rfl := Option.mem_some.mp htext
      by_cases hdropped : strip isSpace segment = [] ∨ strip isSpace segment = dot
      · refine Flavour.drive_eq_nil ?_
        rcases hdropped with heq | heq
        · rw [heq]
          decide
        · rw [heq]
          decide
      · rw [not_or] at hdropped
        exact hkept _ (List.mem_filter.mpr
          ⟨List.mem_map_of_mem hsegment, decide_eq_true hdropped⟩)

/-- The names that `sanitize_relpath` returns, with and without their common root. -/
theorem upload_paths (flavour : Flavour) :
    (∀ raw path, sanitizeRelpath raw = some path →
      (UploadPath flavour path ↔ Driveless flavour raw)) ∧
    ∀ (raws : List (Option Str)) (paths : List Str), raws.map sanitizeRelpath = paths.map some →
      paths ≠ [] → paths.Nodup →
      (stripCommonRoot paths).2.Nodup ∧ (stripCommonRoot paths).2 ≠ [] ∧
      (∀ path ∈ (stripCommonRoot paths).2, path ≠ [] ∧ Canonical path) ∧
      ((∀ path ∈ paths ++ (stripCommonRoot paths).2, UploadPath flavour path) ↔
        ∀ raw ∈ raws, Driveless flavour raw) := by
  have hsingle : ∀ raw path, sanitizeRelpath raw = some path →
      (UploadPath flavour path ↔ Driveless flavour raw) := fun raw path h => by
    rw [driveless_iff h, (keptPath_of_sanitized h).uploadPath_iff]
  refine ⟨hsingle, fun raws paths hpaths hne hnodup => ?_⟩
  have hraw : ∀ path ∈ paths, ∃ raw ∈ raws, sanitizeRelpath raw = some path := by
    intro path hpath
    have hmem : some path ∈ raws.map sanitizeRelpath := hpaths ▸ List.mem_map_of_mem hpath
    exact List.mem_map.mp hmem
  have hkept : ∀ path ∈ (stripCommonRoot paths).2, KeptPath (components path) := by
    intro stripped hstripped
    obtain ⟨path, hpath, hsuffix⟩ := exists_suffix_of_mem_stripCommonRoot hstripped
    obtain ⟨raw, -, h⟩ := hraw path hpath
    exact (keptPath_of_sanitized h).of_suffix hsuffix (components_ne_nil stripped)
  refine ⟨stripCommonRoot_nodup hnodup, ?_, fun path hpath => ?_, ?_⟩
  · rcases stripCommonRoot_cases paths with heq | ⟨-, heq⟩
    · rw [heq]
      exact hne
    · rw [heq]
      exact fun hnil => hne (List.map_eq_nil_iff.mp hnil)
  · rw [← join_components path]
    exact ⟨(hkept path hpath).1.join_ne_nil, (hkept path hpath).canonical⟩
  · constructor
    · intro hall raw hmem
      have hsome : sanitizeRelpath raw ∈ paths.map some := hpaths ▸ List.mem_map_of_mem hmem
      obtain ⟨path, hpath, h⟩ := List.mem_map.mp hsome
      exact (hsingle raw path h.symm).mp (hall path (List.mem_append_left _ hpath))
    · intro hall
      have hdrive : ∀ path ∈ paths, ∀ part ∈ components path, flavour.drive part = [] := by
        intro path hpath
        obtain ⟨raw, hmem, h⟩ := hraw path hpath
        exact (driveless_iff h).mp (hall raw hmem)
      intro path hpath
      rcases List.mem_append.mp hpath with hpath | hpath
      · obtain ⟨raw, -, h⟩ := hraw path hpath
        exact (keptPath_of_sanitized h).uploadPath_iff.mpr (hdrive path hpath)
      · refine (hkept path hpath).uploadPath_iff.mpr fun part hpart => ?_
        obtain ⟨path', hpath', hsuffix⟩ := exists_suffix_of_mem_stripCommonRoot hpath
        exact hdrive path' hpath' part (hsuffix.subset hpart)

theorem upload_paths_folder :
    (UploadPath .posix (ofString "site/a.txt") ↔
      Driveless .posix (some (ofString "site\\ a.txt "))) ∧
    ∀ path ∈ [ofString "site/a.txt", ofString "site/b/c.txt", ofString "a.txt", ofString "b/c.txt"],
      UploadPath .posix path := by
  have hraws : [some (ofString "site\\ a.txt "), some (ofString "./site/b//c.txt")].map
      sanitizeRelpath = [ofString "site/a.txt", ofString "site/b/c.txt"].map some := by
    decide +kernel
  refine ⟨(upload_paths .posix).1 _ _ (List.cons.inj hraws).1, ?_⟩
  exact ((upload_paths .posix).2 _ _ hraws (by simp) (by decide)).2.2.2.mpr
    fun raw _ text _ segment _ => rfl

/-- Windows with the drives of ASCII letters. -/
def asciiDrives : Drives where
  isLetter c := 65 ≤ c.val ∧ c.val ≤ 90 ∨ 97 ≤ c.val ∧ c.val ≤ 122
  lower drive := drive.map lower
  lower_ne := by decide
  parsedTogether := true

/-- The file of another drive replaces the upload root. -/
theorem drive_leaves_upload_root :
    sanitizeRelpath (some (ofString "D:evil.txt")) = some (ofString "D:evil.txt") ∧
    uploadDestination (.windows asciiDrives)
      ⟨ofString "C:", [backslash], [ofString "mdm", ofString "upload"]⟩ (ofString "D:evil.txt") =
        ⟨ofString "D:", [], [ofString "evil.txt"]⟩ ∧
    ¬ (Flavour.windows asciiDrives).IsBelow
      ⟨ofString "C:", [backslash], [ofString "mdm", ofString "upload"]⟩
      (uploadDestination (.windows asciiDrives)
        ⟨ofString "C:", [backslash], [ofString "mdm", ofString "upload"]⟩
        (ofString "D:evil.txt")) := by
  have hdestination : uploadDestination (.windows asciiDrives)
      ⟨ofString "C:", [backslash], [ofString "mdm", ofString "upload"]⟩ (ofString "D:evil.txt") =
        ⟨ofString "D:", [], [ofString "evil.txt"]⟩ := by decide +kernel
  refine ⟨by decide +kernel, hdestination, ?_⟩
  rw [hdestination]
  rintro ⟨-, hroot, -⟩
  exact absurd hroot (by decide)

end StylyMdm.Files
