import StylyMdm.Library.Run
import StylyMdm.Files.Extraction

/-!
# From the upload to the staging directory

What the server packs is what the client unpacks. The upload directory, being a file system, holds
no file below another one (`FileTree.eq_of_leading`); together with the names `sanitize_relpath`
leaves this is all the client's checks ask for, in whatever order the entries come. The limits of
the two sides are the same numbers.

* `SafeName` and `SafePath` are what `sanitize_relpath` promises of its results: no separators of
  either kind, no dots, no blank ends, no NUL. A path of such names is read back from its text.
* `Received` says what is in the upload directory after the request: for each clean name the content
  of the part that has it, and nothing else.
* `zipTree_spec` and `packageAndPublish_spec` follow the files into the archive. The directory that
  all files share is dropped only when every file has one (`SharesRoot`).
* `Extractable` archives are those the server makes, in any order; `Received.extracted` unpacks
  them.

`package_extract_round_trip` joins the three for every upload that is accepted.
-/

namespace StylyMdm.Files

open Text

/-! ### The names -/

/-- A segment that `sanitize_relpath` keeps: a proper component that is not only white space. -/
structure SafeName (part : Str) : Prop extends Proper part where
  nonblank : ∃ c ∈ part, ¬ isSpace c

theorem SafeName.isBlank {part : Str} (h : SafeName part) : isBlank part = false := by
  obtain ⟨c, hc, hspace⟩ := h.nonblank
  rw [Files.isBlank, List.all_eq_false]
  refine ⟨c, hc, fun hwhite => hspace ?_⟩
  rw [isSpace, hwhite, Bool.true_or]

/-- One segment keeps the names safe. -/
theorem sanitizeSegment_spec {parts parts' : List Str} {segment : Str}
    (hsegment : slash ∉ segment ∧ backslash ∉ segment ∧ 0 ∉ segment)
    (h : sanitizeSegment parts segment = some parts') (hparts : ∀ part ∈ parts, SafeName part) :
    ∀ part ∈ parts', SafeName part := by
  have hsub := (strip_sublist isSpace segment).subset
  simp only [sanitizeSegment] at h
  split_ifs at h with hskip hdots
  · rw [← Option.some.inj h]
    exact hparts
  · rw [not_or] at hskip
    rw [← Option.some.inj h]
    intro part hpart
    rcases List.mem_append.mp hpart with hpart | hpart
    · exact hparts part hpart
    · rw [List.mem_singleton.mp hpart]
      have hnonblank : ¬ ∀ c ∈ strip isSpace segment, isSpace c := by
        rw [← strip_eq_nil_iff, strip_strip]
        exact hskip.1
      push Not at hnonblank
      exact ⟨⟨hskip.1, hskip.2, hdots, fun hmem => hsegment.1 (hsub hmem),
        fun hmem => hsegment.2.1 (hsub hmem), fun hmem => hsegment.2.2 (hsub hmem)⟩, by
          simpa using hnonblank⟩

theorem foldlM_sanitizeSegment_spec {segments parts parts' : List Str}
    (hsegments : ∀ segment ∈ segments, slash ∉ segment ∧ backslash ∉ segment ∧ 0 ∉ segment)
    (h : segments.foldlM sanitizeSegment parts = some parts')
    (hparts : ∀ part ∈ parts, SafeName part) : ∀ part ∈ parts', SafeName part := by
  induction segments generalizing parts with
  | nil =>
    rw [List.foldlM_nil, Option.pure_def, Option.some_inj] at h
    rwa [← h]
  | cons segment segments ih =>
    rw [List.foldlM_cons, Option.bind_eq_bind, Option.bind_eq_some_iff] at h
    obtain ⟨next, hnext, h⟩ := h
    rw [List.forall_mem_cons] at hsegments
    exact ih hsegments.2 h (sanitizeSegment_spec hsegments.1 hnext hparts)

/-- A path whose components name something. -/
def SafePath (path : List Str) : Prop := path ≠ [] ∧ ∀ part ∈ path, SafeName part

theorem SafePath.components_join {path : List Str} (h : SafePath path) :
    components (join path) = path :=
  Text.components_join (fun part hpart => (h.2 part hpart).slash) h.1

theorem SafePath.join_inj {path path' : List Str} (h : SafePath path) (h' : SafePath path')
    (heq : join path = join path') : path = path' := by
  rw [← h.components_join, heq, h'.components_join]

/-- The names `sanitize_relpath` returns. -/
theorem sanitizeRelpath_spec {raw : Option Str} {relative : Str}
    (h : sanitizeRelpath raw = some relative) :
    SafePath (components relative) ∧ join (components relative) = relative := by
  refine ⟨?_, join_components relative⟩
  rw [sanitizeRelpath.eq_def] at h
  split at h
  · exact absurd h (by simp)
  · rename_i raw
    split_ifs at h with hempty hnul
    split at h
    · exact absurd h (by simp)
    · rename_i parts hfold
      split_ifs at h with hnil
      have hsafe : SafePath parts := by
        refine ⟨hnil, foldlM_sanitizeSegment_spec ?_ hfold (List.forall_mem_nil _)⟩
        intro segment hsegment
        have hsub := subset_of_mem_components hsegment
        exact ⟨slash_not_mem_of_mem_components hsegment,
          fun hmem => backslash_not_mem_slashes _ (hsub hmem), fun hmem => hnul (hsub hmem)⟩
      rw [← Option.some.inj h, hsafe.components_join]
      exact hsafe

/-! ### What was uploaded -/

/-- The file that a part of the request brings, with its path after `sanitize_relpath`. -/
def uploadedFile (part : Part) : Option (List Str × Bytes) :=
  if part.name ≠ some (ofString "files") then none
  else
    match sanitizeRelpath part.filename with
    | none => none
    | some relative =>
      if isOsMetadata relative then none else some (components relative, part.content)

/-- The uploaded files without the metadata of the operating systems. -/
def uploadedFiles (parts : List Part) : List (List Str × Bytes) := parts.filterMap uploadedFile

/-- The number of bytes in files. -/
def totalBytes (files : List (List Str × Bytes)) : Nat := (files.map fun file => file.2.length).sum

@[simp] theorem totalBytes_append (files files' : List (List Str × Bytes)) :
    totalBytes (files ++ files') = totalBytes files + totalBytes files' := by
  rw [totalBytes, List.map_append, List.sum_append, totalBytes, totalBytes]

@[simp] theorem totalBytes_singleton (file : List Str × Bytes) :
    totalBytes [file] = file.2.length := by
  rw [totalBytes, List.map_singleton, List.sum_singleton]

/-- The upload has received these files. -/
structure Received (upload : Upload) (files : List (List Str × Bytes)) : Prop where
  seen : upload.seen = files.map fun file => join file.1
  tree : upload.uploadRoot.files = files
  paths : ∀ file ∈ files, SafePath file.1
  count : upload.actualCount = files.length
  bytes : upload.actualBytes = totalBytes files
  count_le : files.length ≤ maxBundleEntries
  bytes_le : totalBytes files ≤ maxBundleSize

/-- The chunks are counted and written. -/
theorem readChunks_spec {chunks : List Bytes} {actualBytes bytes : Nat} {written content : Bytes}
    (h : readChunks actualBytes written chunks = .ok (bytes, content)) :
    content = written ++ chunks.flatten ∧ bytes = actualBytes + chunks.flatten.length ∧
      (actualBytes ≤ maxBundleSize → bytes ≤ maxBundleSize) := by
  induction chunks generalizing actualBytes written with
  | nil =>
    rw [readChunks, Except.ok.injEq, Prod.mk.injEq] at h
    obtain ⟨rfl, rfl⟩ := h
    simp
  | cons chunk chunks ih =>
    rw [readChunks] at h
    split_ifs at h with hlimit
    obtain ⟨hcontent, hbytes, hle⟩ := ih h
    rw [List.flatten_cons, List.length_append]
    refine ⟨by rw [hcontent, List.append_assoc], by omega, fun _ => hle (by omega)⟩

/-- An uploaded file comes to those that are there. -/
theorem openOwnedUpload_spec {tree opened tree' : Tree} {path : List Str} {content : Bytes}
    (hopen : openOwnedUpload tree path = .ok opened) (hput : opened.put path content = some tree') :
    tree'.files = tree.files ++ [(path, content)] := by
  rw [openOwnedUpload] at hopen
  split_ifs at hopen with hfile
  split at hopen
  · exact absurd hopen (by simp)
  · rename_i created hcreated
    obtain rfl := Except.ok.inj hopen
    have hnew : path ∉ tree.files.map Prod.fst := by simpa [FileTree.isFile] using hfile
    exact FileTree.files_put_put hcreated hnew hput

/-- One part of the request. -/
theorem receivePart_spec {upload upload' : Upload} {part : Part} {files : List (List Str × Bytes)}
    (h : receivePart upload part = .ok upload') (hreceived : Received upload files) :
    Received upload' (files ++ (uploadedFile part).toList) := by
  rw [receivePart] at h
  rw [uploadedFile]
  by_cases hname : part.name ≠ some (ofString "files")
  · rw [if_pos hname] at h ⊢
    rw [← Except.ok.inj h]
    simpa using hreceived
  · rw [if_neg hname] at h ⊢
    cases hrelative : sanitizeRelpath part.filename with
    | none =>
      rw [hrelative] at h
      exact nomatch h
    | some relative =>
      rw [hrelative] at h
      dsimp only at h ⊢
      split_ifs at h ⊢ with hmetadata hseen hcount
      · rw [← Except.ok.inj h]
        simpa using hreceived
      · simp only [bind, Except.bind] at h
        split at h
        · exact absurd h (by simp)
        · rename_i opened hopened
          split at h
          · exact absurd h (by simp)
          · rename_i counted hread
            obtain ⟨bytes, content⟩ := counted
            split at h
            · exact absurd h (by simp)
            · rename_i tree hput
              obtain ⟨hcontent, hbytes, hle⟩ := readChunks_spec hread
              obtain ⟨hsafe, hjoin⟩ := sanitizeRelpath_spec hrelative
              have hwritten : content = part.content := hcontent
              rw [← Except.ok.inj h, Option.toList_some, ← hwritten]
              refine ⟨?_, ?_, ?_, ?_, ?_, ?_, ?_⟩
              · rw [List.map_append, List.map_singleton, ← hreceived.seen, hjoin]
              · rw [openOwnedUpload_spec hopened hput, hreceived.tree]
              · intro file hfile
                rcases List.mem_append.mp hfile with hfile | hfile
                · exact hreceived.paths file hfile
                · rw [List.mem_singleton.mp hfile]
                  exact hsafe
              · rw [List.length_append, ← hreceived.count, List.length_singleton]
              · rw [totalBytes_append, totalBytes_singleton, ← hreceived.bytes, hwritten]
                exact hbytes
              · rw [List.length_append, ← hreceived.count, List.length_singleton]
                omega
              · rw [totalBytes_append, totalBytes_singleton, ← hreceived.bytes, hwritten]
                exact hbytes ▸ hle (hreceived.bytes ▸ hreceived.bytes_le)

/-- The loop of `upload_handler`. -/
theorem foldlM_receivePart_spec {parts : List Part} {upload upload' : Upload}
    {files : List (List Str × Bytes)} (h : parts.foldlM receivePart upload = .ok upload')
    (hreceived : Received upload files) : Received upload' (files ++ uploadedFiles parts) := by
  induction parts generalizing upload files with
  | nil =>
    obtain rfl := Except.ok.inj h
    rw [uploadedFiles, List.filterMap_nil, List.append_nil]
    exact hreceived
  | cons part parts ih =>
    rw [List.foldlM_cons] at h
    rcases hpart : receivePart upload part with error | next
    · rw [hpart] at h
      exact absurd h (by simp [bind, Except.bind])
    · rw [hpart] at h
      have hnext := ih h (receivePart_spec hpart hreceived)
      have hsplit : uploadedFiles (part :: parts) =
          (uploadedFile part).toList ++ uploadedFiles parts := by
        rw [uploadedFiles, uploadedFiles, List.filterMap_cons]
        rcases uploadedFile part with _ | file <;> rfl
      rwa [hsplit, ← List.append_assoc]

theorem receiveParts_spec {parts : List Part} {upload : Upload}
    (h : receiveParts parts = .ok upload) : Received upload (uploadedFiles parts) := by
  have hempty : Received { seen := [], actualCount := 0, actualBytes := 0, uploadRoot := .empty }
      [] :=
    ⟨rfl, rfl, List.forall_mem_nil _, rfl, rfl, Nat.zero_le _, Nat.zero_le _⟩
  exact foldlM_receivePart_spec h hempty

/-! ### The archive -/

/-- Do all paths have at least two components, the first of which they share? -/
def SharesRoot (files : List (List Str × Bytes)) : Prop :=
  ∀ file ∈ files, 2 ≤ file.1.length ∧ ∀ file' ∈ files, file'.1.head? = file.1.head?

instance (files : List (List Str × Bytes)) : Decidable (SharesRoot files) := by
  unfold SharesRoot
  infer_instance

/-- The files of the bundle: those uploaded, below the directory that they share. -/
def bundleFiles (parts : List Part) : List (List Str × Bytes) :=
  if SharesRoot (uploadedFiles parts) then
    (uploadedFiles parts).map fun file => (file.1.drop 1, file.2)
  else uploadedFiles parts

section Segments

variable {part part' : Str} {rest : List Str}

theorem takeWhile_append_slash {text : Str} (h : slash ∉ part) :
    (part ++ slash :: text).takeWhile (fun c => c ≠ slash) = part := by
  have hpart : ∀ c ∈ part, decide (c ≠ slash) = true := by
    intro c hc
    rw [decide_eq_true_iff]
    rintro rfl
    exact h hc
  rw [List.takeWhile_append_of_pos hpart, List.takeWhile_cons_of_neg (by simp), List.append_nil]

theorem firstSegment_join (h : SafePath (part :: rest)) :
    firstSegment (join (part :: rest)) = part := by
  have hslash : slash ∉ part := (h.2 part List.mem_cons_self).slash
  rw [firstSegment]
  rcases rest with _ | ⟨part', rest⟩
  · rw [join, List.intercalate_singleton, List.takeWhile_eq_self_iff]
    intro c hc
    rw [decide_eq_true_iff]
    rintro rfl
    exact hslash hc
  · rw [join_cons_cons, takeWhile_append_slash hslash]

theorem slash_mem_join_iff (h : SafePath (part :: rest)) :
    slash ∈ join (part :: rest) ↔ rest ≠ [] := by
  have hslash : slash ∉ part := (h.2 part List.mem_cons_self).slash
  rcases rest with _ | ⟨part', rest⟩
  · rw [join, List.intercalate_singleton]
    simp [hslash]
  · rw [join_cons_cons]
    simp

theorem length_laterSegments_lt {text : Str} (h : text ≠ []) :
    (laterSegments text).length < text.length := by
  have hsuffix : (text.dropWhile fun c => decide (c ≠ slash)).length ≤ text.length :=
    (List.dropWhile_suffix _).length_le
  have hpos := List.length_pos_iff.mpr h
  rw [laterSegments, List.length_drop]
  omega

theorem SafePath.join_ne_nil {path : List Str} (h : SafePath path) : join path ≠ [] := by
  obtain ⟨part, rest, rfl⟩ := List.exists_cons_of_ne_nil h.1
  have hpart := (h.2 part List.mem_cons_self).ne_nil
  intro hnil
  have hsub : part ⊆ join (part :: rest) := subset_join List.mem_cons_self
  rw [hnil] at hsub
  exact hpart (List.subset_nil.mp hsub)

end Segments

/-- The directory that `_package_and_publish` zips. -/
theorem packageAndPublish_spec {files : List (List Str × Bytes)} {names : List Str} (tree : Tree)
    (hne : files ≠ []) (hpaths : ∀ file ∈ files, SafePath file.1)
    (hnames : ∀ name, name ∈ names ↔ ∃ file ∈ files, join file.1 = name) :
    (SharesRoot files → ∃ root, (∀ file ∈ files, ∃ rest, rest ≠ [] ∧ file.1 = root :: rest) ∧
      packageAndPublish tree names = zipTree tree [root]) ∧
    (¬ SharesRoot files → packageAndPublish tree names = zipTree tree []) := by
  constructor
  · intro hshares
    obtain ⟨first, others, hfiles⟩ := List.exists_cons_of_ne_nil hne
    have hfirst : first ∈ files := hfiles ▸ List.mem_cons_self
    obtain ⟨root, rest₀, hroot⟩ := List.exists_cons_of_ne_nil (hpaths first hfirst).1
    have hbelow : ∀ file ∈ files, ∃ rest, rest ≠ [] ∧ file.1 = root :: rest := by
      intro file hfile
      obtain ⟨hlen, hhead⟩ := hshares file hfile
      obtain ⟨root', rest, hpath⟩ := List.exists_cons_of_ne_nil (hpaths file hfile).1
      have heq := hhead first hfirst
      rw [hroot, hpath, List.head?_cons, List.head?_cons, Option.some_inj] at heq
      refine ⟨rest, ?_, by rw [hpath, heq]⟩
      rintro rfl
      rw [hpath] at hlen
      exact absurd hlen (by simp)
    have hname : ∀ name ∈ names, slash ∈ name ∧ firstSegment name = root ∧ name ≠ [] := by
      intro name hname
      obtain ⟨file, hfile, rfl⟩ := (hnames name).mp hname
      obtain ⟨rest, hrest, hpath⟩ := hbelow file hfile
      have hsafe := hpaths file hfile
      have hjoin := hsafe.join_ne_nil
      rw [hpath] at hsafe hjoin ⊢
      exact ⟨(slash_mem_join_iff hsafe).mpr hrest, firstSegment_join hsafe, hjoin⟩
    have hnamesNe : names ≠ [] :=
      List.ne_nil_of_mem ((hnames _).mpr ⟨first, hfirst, rfl⟩)
    obtain ⟨name, later, rfl⟩ := List.exists_cons_of_ne_nil hnamesNe
    have hdups : ((name :: later).map firstSegment).eraseDups = [root] := by
      rw [List.map_cons, List.eraseDups_cons, (hname name List.mem_cons_self).2.1]
      have hfilter : (later.map firstSegment).filter (fun segment => !segment == root) = [] := by
        rw [List.filter_eq_nil_iff]
        intro segment hsegment
        obtain ⟨name', hname', rfl⟩ := List.mem_map.mp hsegment
        simp [(hname name' (List.mem_cons_of_mem _ hname')).2.1]
      rw [hfilter]
      rfl
    have hstripped : (stripCommonRoot (name :: later)).2 ≠ name :: later := by
      rw [stripCommonRoot, if_neg, hdups]
      · intro heq
        have hlen := congrArg List.length (List.cons.inj heq).1
        have hlt := length_laterSegments_lt (hname name List.mem_cons_self).2.2
        omega
      · rintro (hnil | ⟨path, hpath, hslash⟩)
        · exact absurd hnil (List.cons_ne_nil _ _)
        · exact hslash (hname path hpath).1
    refine ⟨root, hbelow, ?_⟩
    rw [packageAndPublish]
    simp only [if_pos hstripped, List.headD_cons, (hname name List.mem_cons_self).2.1]
  · intro hshares
    have hstripped : (stripCommonRoot names).2 = names := by
      rw [stripCommonRoot]
      split_ifs with hnone
      · rfl
      · rw [not_or] at hnone
        push Not at hnone
        split
        · rename_i root hdups
          -- the client's condition holds after all
          refine absurd ?_ hshares
          have hsegment : ∀ file ∈ files, ∃ rest, rest ≠ [] ∧ file.1 = root :: rest := by
            intro file hfile
            have hmem := (hnames _).mpr ⟨file, hfile, rfl⟩
            obtain ⟨part, rest, hpath⟩ := List.exists_cons_of_ne_nil (hpaths file hfile).1
            have hsafe := hpaths file hfile
            have hslash := hnone.2 _ hmem
            have hfirst : firstSegment (join file.1) ∈ (names.map firstSegment).eraseDups :=
              List.mem_eraseDups.mpr (List.mem_map_of_mem hmem)
            rw [hpath] at hsafe hslash hfirst ⊢
            rw [firstSegment_join hsafe, hdups, List.mem_singleton] at hfirst
            exact ⟨rest, (slash_mem_join_iff hsafe).mp hslash, by rw [hfirst]⟩
          intro file hfile
          obtain ⟨rest, hrest, hpath⟩ := hsegment file hfile
          refine ⟨?_, ?_⟩
          · rw [hpath, List.length_cons]
            have := List.length_pos_iff.mpr hrest
            omega
          · intro file' hfile'
            obtain ⟨rest', -, hpath'⟩ := hsegment file' hfile'
            rw [hpath, hpath', List.head?_cons, List.head?_cons]
        · rfl
    rw [packageAndPublish]
    simp only [hstripped, ne_eq, not_true_eq_false, if_false]

/-- The entry of a file. -/
def entryOf (file : List Str × Bytes) : Entry := { name := join file.1, content := file.2 }

/-- The entries of an archive. -/
theorem zipTree_spec {tree : Tree} {root : List Str} {entries : List Entry}
    (h : zipTree tree root = .ok entries) :
    entries = (filesBelow tree root).map fun file => entryOf (file.1.drop root.length, file.2) := by
  rw [zipTree] at h
  generalize filesBelow tree root = files at h ⊢
  induction files generalizing entries with
  | nil =>
    obtain rfl := Except.ok.inj h
    rfl
  | cons file files ih =>
    rw [List.mapM_cons] at h
    simp only [bind, Except.bind] at h
    split at h
    · exact absurd h (by simp)
    · rename_i entry hentry
      split_ifs at hentry with hname
      split at h
      · exact absurd h (by simp)
      · rename_i later hlater
        rw [← Except.ok.inj h, ih hlater, List.map_cons, ← Except.ok.inj hentry]
        rfl

/-! ### The extraction -/

/-- Files that can be put into one directory, within the limits of the client. -/
structure Extractable (files : List (List Str × Bytes)) : Prop where
  nodup : (files.map Prod.fst).Nodup
  paths : ∀ file ∈ files, SafePath file.1
  eq_of_leading : ∀ file ∈ files, ∀ file' ∈ files, file.1 <+: file'.1 → file.1 = file'.1
  count_le : files.length ≤ maxArchiveEntries
  bytes_le : totalBytes files ≤ maxExtractedBytes

section Names

variable {path : List Str}

theorem SafePath.backslash_not_mem (h : SafePath path) : backslash ∉ join path := by
  intro hmem
  rcases mem_join hmem with hslash | ⟨part, hpart, hmem⟩
  · exact absurd hslash (by decide)
  · exact (h.2 part hpart).backslash hmem

theorem SafePath.nul_not_mem (h : SafePath path) : 0 ∉ join path := by
  intro hmem
  rcases mem_join hmem with hslash | ⟨part, hpart, hmem⟩
  · exact absurd hslash (by decide)
  · exact (h.2 part hpart).nul hmem

/-- A safe path has no slash at its end. -/
theorem SafePath.getLast?_ne_slash (h : SafePath path) : (join path).getLast? ≠ some slash := by
  rcases List.eq_nil_or_concat path with rfl | ⟨init, part, rfl⟩
  · exact absurd rfl h.1
  · rw [List.concat_eq_append] at h ⊢
    have hpart := h.2 part (by simp)
    rw [getLast?_join hpart.ne_nil]
    intro hlast
    exact hpart.slash (List.mem_of_mem_getLast? hlast)

theorem SafePath.isBlank_join (h : SafePath path) : isBlank (join path) = false := by
  obtain ⟨part, rest, rfl⟩ := List.exists_cons_of_ne_nil h.1
  have hpart := (h.2 part List.mem_cons_self).isBlank
  rw [Files.isBlank, List.all_eq_false] at hpart ⊢
  obtain ⟨c, hc, hwhite⟩ := hpart
  exact ⟨c, subset_join List.mem_cons_self hc, hwhite⟩

/-- The client takes the names that `sanitize_relpath` leaves. -/
theorem validateEntryName_join (h : SafePath path) :
    validateEntryName (join path) = .ok (join path) := by
  have hhead : (join path).head? ≠ some slash ∧ (join path).head? ≠ some backslash := by
    refine ⟨fun hhead => ?_, fun hhead => h.backslash_not_mem (List.mem_of_mem_head? hhead)⟩
    obtain ⟨part, rest, rfl⟩ := List.exists_cons_of_ne_nil h.1
    have hpart := h.2 part List.mem_cons_self
    rw [head?_join hpart.ne_nil] at hhead
    exact hpart.slash (List.mem_of_mem_head? hhead)
  have htrim : (join path).rdropWhile (fun c => c = slash) = join path := by
    rw [List.rdropWhile_eq_self_iff]
    intro hne
    rw [decide_eq_true_iff]
    intro hlast
    exact h.getLast?_ne_slash (by rw [List.getLast?_eq_some_getLast hne, hlast])
  have hparts : ¬ (path.any fun part => isBlank part || part = dot || part = dotdot) := by
    rw [List.any_eq_true]
    rintro ⟨part, hpart, hbad⟩
    have hsafe := h.2 part hpart
    rw [hsafe.isBlank, Bool.false_or, Bool.or_eq_true, decide_eq_true_iff,
      decide_eq_true_iff] at hbad
    rcases hbad with hbad | hbad
    · exact hsafe.ne_dot hbad
    · exact hsafe.ne_dotdot hbad
  rw [validateEntryName, slashes_eq_self h.backslash_not_mem, htrim,
    if_neg (by simp [h.isBlank_join, h.nul_not_mem, hhead.1, hhead.2])]
  simp only [h.components_join, h.isBlank_join, Bool.false_or]
  rw [if_neg hparts]

theorem relative_entryOf (h : SafePath path) (content : Bytes) :
    (entryOf (path, content)).relative = join path :=
  Except.ok.inj ((Entry.ValidName.spec ⟨_, validateEntryName_join h⟩).1.symm.trans
    (validateEntryName_join h))

theorem path_entryOf (h : SafePath path) (content : Bytes) :
    (entryOf (path, content)).path = path := by
  rw [Entry.path, relative_entryOf h, h.components_join]

theorem isDirectory_entryOf (h : SafePath path) (content : Bytes) :
    (entryOf (path, content)).isDirectory = false := by
  rw [Entry.isDirectory, decide_eq_false_iff_not]
  exact h.getLast?_ne_slash

end Names

/-- The files among the entries are those the entries are made of. -/
theorem map_filter_entryOf {files : List (List Str × Bytes)}
    (h : ∀ file ∈ files, SafePath file.1) :
    ((files.map entryOf).filter fun entry => !entry.isDirectory).map
      (fun entry => (entry.path, entry.content)) = files := by
  induction files with
  | nil => rfl
  | cons file files ih =>
    rw [List.forall_mem_cons] at h
    rw [List.map_cons, List.filter_cons_of_pos (by rw [isDirectory_entryOf h.1]; rfl),
      List.map_cons, ih h.2, path_entryOf h.1]
    rfl

/-- The entries of files that fit into one directory make an unpackable archive. -/
theorem Extractable.unpackable {files : List (List Str × Bytes)} (h : Extractable files) :
    Unpackable {} (files.map entryOf) := by
  have hfiles := map_filter_entryOf h.paths
  refine ⟨by rw [List.length_map]; exact h.count_le, ?_, ?_, ?_, ?_⟩
  · have hbytes : totalBytes files = contentBytes (files.map entryOf) := by
      rw [← hfiles, totalBytes, List.map_map, hfiles]
      rfl
    exact hbytes ▸ h.bytes_le
  · intro entry hentry
    obtain ⟨file, hfile, rfl⟩ := List.mem_map.mp hentry
    exact ⟨_, validateEntryName_join (h.paths file hfile)⟩
  · rw [List.map_map]
    refine List.Nodup.map_on ?_ (List.Nodup.of_map _ h.nodup)
    intro file hfile file' hfile' heq
    have heq : join file.1 = join file'.1 := by
      rw [← relative_entryOf (h.paths file hfile) file.2,
        ← relative_entryOf (h.paths file' hfile') file'.2]
      exact heq
    exact List.inj_on_of_nodup_map h.nodup hfile hfile'
      ((h.paths file hfile).join_inj (h.paths file' hfile') heq)
  · intro entry hentry _ entry' hentry' hpre
    obtain ⟨file, hfile, rfl⟩ := List.mem_map.mp hentry
    obtain ⟨file', hfile', rfl⟩ := List.mem_map.mp hentry'
    rw [path_entryOf (h.paths file hfile), path_entryOf (h.paths file' hfile')] at hpre ⊢
    exact h.eq_of_leading file hfile file' hfile' hpre

/-- The client extracts every archive of files that fit into one directory. -/
theorem validateAndExtract_eq {files : List (List Str × Bytes)} (streams : Streams)
    (work : List Str) (hne : files ≠ []) (hfiles : Extractable files) :
    ∃ staging, validateAndExtract streams work (files.map entryOf) = .ok staging ∧
      staging.files = files := by
  obtain ⟨staging, hok⟩ := validateAndExtract_ok {} streams work
    (fun hnil => hne (List.map_eq_nil_iff.mp hnil)) hfiles.unpackable
  obtain ⟨-, -, htree, -⟩ := validateAndExtract_spec hok
  exact ⟨staging, hok, htree.trans (map_filter_entryOf hfiles.paths)⟩

theorem Extractable.perm {files files' : List (List Str × Bytes)} (h : Extractable files)
    (hperm : files'.Perm files) : Extractable files' where
  nodup := (hperm.map Prod.fst).nodup_iff.mpr h.nodup
  paths file hfile := h.paths file (hperm.mem_iff.mp hfile)
  eq_of_leading file hfile file' hfile' :=
    h.eq_of_leading file (hperm.mem_iff.mp hfile) file' (hperm.mem_iff.mp hfile')
  count_le := hperm.length_eq ▸ h.count_le
  bytes_le := by
    rw [totalBytes, (hperm.map fun file => file.2.length).sum_eq]
    exact h.bytes_le

/-- What was received below a root fits into one directory. -/
theorem Received.extractable {upload : Upload} {files : List (List Str × Bytes)}
    {root : List Str} (h : Received upload files)
    (hbelow : ∀ file ∈ files, ∃ rest, rest ≠ [] ∧ file.1 = root ++ rest) :
    Extractable (files.map fun file => (file.1.drop root.length, file.2)) := by
  have hdrop : ∀ file ∈ files, file.1 = root ++ file.1.drop root.length := by
    intro file hfile
    obtain ⟨rest, -, hrest⟩ := hbelow file hfile
    rw [hrest, List.drop_left]
  have htree : ∀ file ∈ files, file ∈ upload.uploadRoot.files := fun file hfile =>
    h.tree.symm ▸ hfile
  refine ⟨?_, ?_, ?_, ?_, ?_⟩
  · have hnodup : (files.map Prod.fst).Nodup := h.tree ▸ upload.uploadRoot.nodup
    rw [List.map_map]
    refine List.Nodup.map_on ?_ (List.Nodup.of_map _ hnodup)
    intro file hfile file' hfile' heq
    refine List.inj_on_of_nodup_map hnodup hfile hfile' ?_
    rw [hdrop file hfile, hdrop file' hfile']
    exact congrArg (root ++ ·) heq
  · intro relative hrelative
    obtain ⟨file, hfile, rfl⟩ := List.mem_map.mp hrelative
    obtain ⟨rest, hne, hrest⟩ := hbelow file hfile
    refine ⟨?_, ?_⟩
    · simpa only [hrest, List.drop_left] using hne
    · intro part hpart
      exact (h.paths file hfile).2 part (List.mem_of_mem_drop hpart)
  · intro relative hrelative relative' hrelative' hpre
    obtain ⟨file, hfile, rfl⟩ := List.mem_map.mp hrelative
    obtain ⟨file', hfile', rfl⟩ := List.mem_map.mp hrelative'
    have heq := FileTree.eq_of_leading (htree file hfile) (htree file' hfile') (by
      rw [hdrop file hfile, hdrop file' hfile']
      exact (List.prefix_append_right_inj root).mpr hpre)
    change file.1.drop root.length = file'.1.drop root.length
    rw [heq]
  · rw [List.length_map]
    exact h.count_le
  · rw [totalBytes, List.map_map]
    exact h.bytes_le

/-- The archive of what was received below a root is extracted. -/
theorem Received.extracted {upload : Upload} {files : List (List Str × Bytes)} {root : List Str}
    {entries : List Entry} (h : Received upload files) (hne : files ≠ [])
    (hbelow : ∀ file ∈ files, ∃ rest, rest ≠ [] ∧ file.1 = root ++ rest)
    (hzip : zipTree upload.uploadRoot root = .ok entries) (streams : Streams) (work : List Str) :
    ∃ staging, validateAndExtract streams work entries = .ok staging ∧
      ∀ path content, staging.read path = some content ↔
        (path, content) ∈ files.map fun file => (file.1.drop root.length, file.2) := by
  have hfilter : upload.uploadRoot.files.filter
      (fun file => root <+: file.1 ∧ root ≠ file.1) = files := by
    rw [h.tree, List.filter_eq_self]
    intro file hfile
    obtain ⟨rest, hrest, hpath⟩ := hbelow file hfile
    rw [decide_eq_true_iff, hpath]
    exact ⟨List.prefix_append _ _, by simpa using hrest⟩
  have hperm : (filesBelow upload.uploadRoot root).Perm files := by
    rw [filesBelow, hfilter]
    exact List.perm_insertionSort _ _
  have hbundle := hperm.map fun file => (file.1.drop root.length, file.2)
  have hne' : (filesBelow upload.uploadRoot root).map
      (fun file => (file.1.drop root.length, file.2)) ≠ [] := by
    intro hnil
    rw [hnil] at hbundle
    exact hne (List.map_eq_nil_iff.mp hbundle.symm.eq_nil)
  obtain ⟨staging, hextract, hfiles⟩ := validateAndExtract_eq streams work hne'
    ((h.extractable hbelow).perm hbundle)
  refine ⟨staging, ?_, ?_⟩
  · rw [zipTree_spec hzip]
    rw [List.map_map] at hextract
    exact hextract
  · intro path content
    rw [FileTree.read_eq_some_iff, hfiles, hbundle.mem_iff]

/-- An upload that is published has received files, and they are zipped. -/
theorem uploadHandler_received {parts : List Part} {entries : List Entry}
    (h : uploadHandler parts = .ok entries) :
    ∃ upload, Received upload (uploadedFiles parts) ∧ uploadedFiles parts ≠ [] ∧
      packageAndPublish upload.uploadRoot (upload.seen.insertionSort (· ≤ ·)) = .ok entries := by
  rw [uploadHandler] at h
  obtain ⟨upload, hupload, h⟩ := Except.bind_eq_ok.mp h
  split_ifs at h with hcount
  have hreceived := receiveParts_spec hupload
  refine ⟨upload, hreceived, ?_, h⟩
  intro hnil
  rw [hreceived.count, hnil] at hcount
  exact hcount rfl

/-- The published archive extracts to the files of the bundle. -/
theorem Received.published {upload : Upload} {parts : List Part} {entries : List Entry}
    (h : Received upload (uploadedFiles parts)) (hne : uploadedFiles parts ≠ [])
    (hpublished : packageAndPublish upload.uploadRoot (upload.seen.insertionSort (· ≤ ·)) =
      .ok entries) (streams : Streams) (work : List Str) :
    ∃ staging, validateAndExtract streams work entries = .ok staging ∧
      ∀ path content, staging.read path = some content ↔ (path, content) ∈ bundleFiles parts := by
  have hnames : ∀ name, name ∈ upload.seen.insertionSort (· ≤ ·) ↔
      ∃ file ∈ uploadedFiles parts, join file.1 = name := by
    intro name
    rw [List.mem_insertionSort, h.seen, List.mem_map]
  obtain ⟨hshared, hflat⟩ := packageAndPublish_spec upload.uploadRoot hne h.paths hnames
  by_cases hshares : SharesRoot (uploadedFiles parts)
  · obtain ⟨root, hbelow, hzip⟩ := hshared hshares
    rw [hzip] at hpublished
    have hbelow' : ∀ file ∈ uploadedFiles parts, ∃ rest, rest ≠ [] ∧ file.1 = [root] ++ rest :=
      hbelow
    have hresult := h.extracted hne hbelow' hpublished streams work
    rwa [bundleFiles, if_pos hshares]
  · rw [hflat hshares] at hpublished
    have hbelow : ∀ file ∈ uploadedFiles parts, ∃ rest, rest ≠ [] ∧ file.1 = [] ++ rest :=
      fun file hfile => ⟨file.1, (h.paths file hfile).1, rfl⟩
    have hresult := h.extracted hne hbelow hpublished streams work
    rw [bundleFiles, if_neg hshares]
    simpa using hresult

/-- What `upload_handler` publishes the client extracts, and the staging directory then holds the
uploaded files, without the directory that they share. -/
theorem package_extract_round_trip (streams : Streams) (work : List Str) {parts : List Part}
    {entries : List Entry} (h : uploadHandler parts = .ok entries) :
    ∃ staging, validateAndExtract streams work entries = .ok staging ∧
      ∀ path content, staging.read path = some content ↔ (path, content) ∈ bundleFiles parts := by
  obtain ⟨upload, hreceived, hne, hpublished⟩ := uploadHandler_received h
  exact hreceived.published hne hpublished streams work

/-- A folder with metadata of an operating system in it. -/
def folderUpload : List Part :=
  [⟨some (ofString "files"), some (ofString "app\\ data /b.txt"), [[1, 2], [3]], by decide⟩,
    ⟨some (ofString "files"), some (ofString "app/.DS_Store"), [[0]], by decide⟩,
    ⟨some (ofString "comment"), none, [[7]], by decide⟩,
    ⟨some (ofString "files"), some (ofString "app/a.txt"), [], by decide⟩]

theorem package_extract_round_trip_folder :
    uploadHandler folderUpload =
        .ok [⟨ofString "a.txt", []⟩, ⟨ofString "data/b.txt", [1, 2, 3]⟩] ∧
      bundleFiles folderUpload =
        [([ofString "data", ofString "b.txt"], [1, 2, 3]), ([ofString "a.txt"], [])] ∧
      ∃ staging, validateAndExtract singleReads [ofString "work"]
          [⟨ofString "a.txt", []⟩, ⟨ofString "data/b.txt", [1, 2, 3]⟩] = .ok staging ∧
        ∀ path content, staging.read path = some content ↔
          (path, content) ∈ bundleFiles folderUpload := by
  have hupload : uploadHandler folderUpload =
      .ok [⟨ofString "a.txt", []⟩, ⟨ofString "data/b.txt", [1, 2, 3]⟩] := by decide +kernel
  exact ⟨hupload, by decide +kernel, package_extract_round_trip singleReads _ hupload⟩

end StylyMdm.Files
