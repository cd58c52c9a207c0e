import StylyMdm.Files.Names
import StylyMdm.Files.Sync

/-!
# Manifests of a folder

The reference that a device is compared with is computed from a folder, by the command line
(`dir_manifest` of `integrity.py`) or by the page (`dirManifest` of `index.html`); the device
computes its own from a directory (`dirManifest` of the client). A manifest lists the files with
their sizes and digests in the order of the bytes of their paths, and the tree hash is the digest of
its lines.

SHA-256 is a parameter, a function from bytes to its digest in hexadecimal. The command line, the
page and the device each get the files in an order that the platform leaves open.

**Three sorts.** The command line sorts the encoded paths, the page and the device compare the bytes
of two paths with a loop of their own. All three are insertion sorts here, and sorting is by a total
order on the paths, so the listing order does not matter (`sortedManifest_congr`).

**Three filters.** Each side leaves out what `is_os_metadata` excludes, by a table of its own; the
page looks at the names after it has stripped the top level and replaced what is not Unicode text.

The specifications of the three (`server_dirManifest_eq_ok_iff`, `browser_dirManifest_eq`,
`device_dirManifest_eq`) are in terms of the content files of the folder, so that they can be
compared. The walk of the device goes into each directory where it lists it, and gives up at a
number of files.
-/

namespace StylyMdm.Files

open Text Disk

/-! ### The folder -/

/-- A folder of the operator's machine. Its names are those Python sees: what is not Unicode text
comes as surrogates. -/
structure LocalFolder where
  name : Str
  tree : Tree
  named : LocalName name
  files_named : ∀ file ∈ tree.files, ∀ part ∈ file.1, LocalName part

/-- The files of a folder as the page gets them: `webkitRelativePath`, which starts with the name of
the folder, and the content. -/
structure Pick (folder : LocalFolder) where
  files : List (Str × Bytes)
  perm : files.Perm
    (folder.tree.files.map fun file => (usv (join (folder.name :: file.1)), file.2))

/-- The request brings the files of the pick, and may have other parts. The browser escapes the file
names, and nothing undoes that. `readable` says which file names the multipart reader can read in
the header of a part; it takes them as they are, and a part whose header it cannot read has no name,
so that it is not one of the `files`. -/
def Brings {folder : LocalFolder} (readable : Str → Bool) (parts : List Part) (pick : Pick folder) :
    Prop :=
  (parts.filter fun part => part.name = some (ofString "files")).map
      (fun part => (part.filename, part.content)) =
    (pick.files.filter fun file => readable (formDataName file.1)).map
      fun file => (some (formDataName file.1), file.2)

/-! ### Manifests -/

/-- UTF-8 of code points that are no surrogates. -/
def utf8 (text : Str) : List UInt8 :=
  text.flatMap fun c => String.utf8EncodeChar (Char.ofNat c.val)

/-- UTF-8 with a replacement for surrogates: `TextEncoder.encode` and `String.toByteArray`. -/
def utf8With (replacement : Point) (text : Str) : List UInt8 :=
  utf8 (text.map fun c => if isSurrogate c then replacement else c)

/-- An entry of a manifest. -/
structure ManifestEntry where
  relativePath : Str
  size : Nat
  sha256 : String
deriving DecidableEq

/-- The line of an entry that goes into the tree hash. -/
def ManifestEntry.line (entry : ManifestEntry) : Str :=
  entry.relativePath ++
    ofString ("\n" ++ toString entry.size ++ "\n" ++ entry.sha256 ++ "\n")

/-- Why there is no manifest. -/
inductive ManifestError
  | unicodeEncodeError (path : Str)
  | tooManyFiles
deriving DecidableEq

/-- The loop of `utf8Compare` over the bytes of the two strings. -/
def compareBytes : List UInt8 → List UInt8 → Int
  | a :: as, b :: bs => if a ≠ b then (a.toNat : Int) - b.toNat else compareBytes as bs
  | as, bs => as.length - bs.length

section Manifest

variable (sha256 : Bytes → String)

/-- The entry of a file. -/
def manifestEntry (relativePath : Str) (content : Bytes) : ManifestEntry :=
  ⟨relativePath, content.length, sha256 content⟩

/-- `_iter_files`. -/
def Server.iterFiles (tree : Tree) : List (Str × Bytes) :=
  (tree.files.map fun file => (join file.1, file.2)).filter fun file => !isOsMetadata file.1

/-- The manifest of `dir_manifest`. The sort encodes every path. -/
def Server.dirManifest (tree : Tree) : Except ManifestError (List ManifestEntry) :=
  let entries := (iterFiles tree).map fun file => manifestEntry sha256 file.1 file.2
  match entries.find? fun entry => !encodable entry.relativePath with
  | some entry => .error (.unicodeEncodeError entry.relativePath)
  | none =>
    .ok (entries.insertionSort fun entry entry' =>
      utf8 entry.relativePath ≤ utf8 entry'.relativePath)

/-- The tree hash of `dir_manifest`. -/
def Server.treeHash (tree : Tree) : Except ManifestError String := do
  let entries ← dirManifest sha256 tree
  return sha256 (entries.flatMap fun entry => utf8 entry.line)

/-- `stripTopLevel`. -/
def Browser.stripTopLevel (relPath : Str) : Str :=
  if slash ∈ relPath then laterSegments relPath else relPath

/-- `OS_METADATA_NAMES` of the page. -/
def Browser.osMetadataNames : List Str :=
  [ofString ".ds_store", ofString "thumbs.db", ofString "ehthumbs.db", ofString "desktop.ini",
    ofString ".directory", ofString ".apdisk", ofString ".volumeicon.icns"]

/-- `OS_METADATA_DIRS` of the page. -/
def Browser.osMetadataDirs : List Str :=
  [ofString ".spotlight-v100", ofString ".trashes", ofString ".fseventsd",
    ofString ".temporaryitems", ofString ".documentrevisions-v100", ofString "__macosx",
    ofString "$recycle.bin"]

/-- `isOsMetadata` of the page. -/
def Browser.isOsMetadata (relPath : Str) : Bool :=
  (components relPath).any fun seg =>
    let low := seg.map lower
    low ∈ osMetadataNames || low ∈ osMetadataDirs || (ofString "._").isPrefixOf low ||
      (ofString ".trash-").isPrefixOf low

/-- `utf8Compare` of the page. -/
def Browser.utf8Compare (a b : Str) : Int := compareBytes (utf8With 0xfffd a) (utf8With 0xfffd b)

/-- `manifestFromFiles`, the manifest. -/
def Browser.manifestFromFiles (picked : List (Str × Bytes)) : List ManifestEntry :=
  let content := (picked.filter fun file => file.1 ≠ []).filter fun file => !isOsMetadata file.1
  (content.map fun file => manifestEntry sha256 file.1 file.2).insertionSort fun entry entry' =>
    utf8Compare entry.relativePath entry'.relativePath ≤ 0

/-- `foldTreeHash`. -/
def Browser.foldTreeHash (entries : List ManifestEntry) : String :=
  sha256 (entries.flatMap fun entry => utf8With 0xfffd entry.line)

/-- `dirManifest` of the page, the manifest. -/
def Browser.dirManifest {folder : LocalFolder} (pick : Pick folder) : List ManifestEntry :=
  manifestFromFiles sha256
    ((pick.files.filter fun file => file.1 ≠ []).map fun file => (stripTopLevel file.1, file.2))

/-- The tree hash of the page. -/
def Browser.treeHash {folder : LocalFolder} (pick : Pick folder) : String :=
  foldTreeHash sha256 (dirManifest sha256 pick)

/-- `MAX_VERIFY_DIR_ENTRIES`. -/
def Device.maxVerifyDirEntries : Nat := 50000

/-- `utf8Compare` of the device. -/
def Device.utf8Compare (a b : Str) : Int := compareBytes (utf8With 63 a) (utf8With 63 b)

/-- The body of the loop of `walkDir`: a directory is walked, and a file comes to the entries. Paths
are relative to the root of the walk. -/
def Device.visitChild (t : Disk (id : Str → Str) Bytes)
    (walk : List Str → List ManifestEntry → Except ManifestError (List ManifestEntry))
    (out : List ManifestEntry) (child : List Str) : Except ManifestError (List ManifestEntry) :=
  if t.isDirectory child then walk child out
  else
    match t.read child with
    | none => .ok out
    | some content =>
      if maxVerifyDirEntries ≤ out.length then .error .tooManyFiles
      else .ok (out ++ [manifestEntry sha256 (join child) content])

/-- `walkDir`, down to `n` levels below the directory. -/
def Device.walkDir (order : Listing Str) (t : Disk (id : Str → Str) Bytes) :
    Nat → List Str → List ManifestEntry → Except ManifestError (List ManifestEntry)
  | 0, _, out => .ok out
  | n + 1, dir, out => (listFiles order t dir).foldlM (visitChild sha256 t (walkDir order t n)) out

/-- `dirManifest` of the device, the manifest. -/
def Device.dirManifest (order : Listing Str) (t : Disk (id : Str → Str) Bytes) :
    Except ManifestError (List ManifestEntry) := do
  let entries ← walkDir sha256 order t (depth t) [] []
  return entries.insertionSort fun entry entry' =>
    utf8Compare entry.relativePath entry'.relativePath ≤ 0

/-- The tree hash of the device. -/
def Device.treeHash (order : Listing Str) (t : Disk (id : Str → Str) Bytes) :
    Except ManifestError String := do
  let entries ← dirManifest sha256 order t
  return sha256 (entries.flatMap fun entry => utf8With 63 entry.line)

end Manifest

/-! ### Sorting -/

theorem utf8_inj {s t : Str} (hs : encodable s) (ht : encodable t) (h : utf8 s = utf8 t) :
    s = t := by
  have hbytes : ∀ text : Str, (asString text).toByteArray = (utf8 text).toByteArray := by
    intro text
    rw [asString, String.toByteArray_ofList, List.utf8Encode, List.flatMap_map, utf8]
  have hstring : asString s = asString t := by
    rw [← String.toByteArray_inj, hbytes, hbytes, h]
  rw [← ofString_asString hs, hstring, ofString_asString ht]

/-- There is nothing to replace. -/
theorem map_replace_eq_self {text : Str} (replacement : Point) (h : encodable text) :
    text.map (fun c => if isSurrogate c then replacement else c) = text := by
  rw [encodable, List.all_eq_true] at h
  refine (List.map_congr_left fun c hc => ?_).trans (List.map_id text)
  have hc' : isSurrogate c = false := by simpa using h c hc
  rw [hc']
  rfl

theorem utf8With_eq {text : Str} (replacement : Point) (h : encodable text) :
    utf8With replacement text = utf8 text := by
  rw [utf8With, map_replace_eq_self replacement h]

theorem usv_eq_self {text : Str} (h : encodable text) : usv text = text :=
  map_replace_eq_self _ h

/-- The comparison of the page and the device is the order of the bytes. -/
theorem compareBytes_le_zero_iff (a b : List UInt8) : compareBytes a b ≤ 0 ↔ a ≤ b := by
  induction a generalizing b with
  | nil =>
    rw [compareBytes]
    · simp
    · simp
  | cons x a ih =>
    rcases b with _ | ⟨y, b⟩
    · rw [compareBytes]
      · simp
      · simp
    · rw [compareBytes, List.cons_le_cons_iff]
      split
      · rename_i hne
        have hlt : x < y ↔ x.toNat < y.toNat := UInt8.lt_iff_toNat_lt
        have hne' : x.toNat ≠ y.toNat := fun heq => hne (UInt8.toNat_inj.mp heq)
        simp only [hne, false_and, or_false, hlt]
        omega
      · rename_i heq
        have heq' : x = y := not_not.mp heq
        rw [ih, heq']
        simp

/-- Sorting by bytes that tell the elements apart only depends on what is sorted. -/
theorem insertionSort_eq_of_perm {α : Type*} {key : α → List UInt8} {l l' : List α}
    (h : l.Perm l') (hinj : ∀ a ∈ l, ∀ b ∈ l, key a = key b → a = b) :
    l.insertionSort (fun a b => key a ≤ key b) = l'.insertionSort fun a b => key a ≤ key b := by
  have hsorted : ∀ l : List α,
      (l.insertionSort fun a b => key a ≤ key b).Pairwise fun a b => key a ≤ key b := by
    intro l
    have htotal : Std.Total fun a b : α => key a ≤ key b :=
      ⟨fun a b => List.le_total (key a) (key b)⟩
    have htrans : IsTrans α fun a b => key a ≤ key b := ⟨fun _ _ _ hab hbc => List.le_trans hab hbc⟩
    exact List.pairwise_insertionSort _ l
  have hperm := ((List.perm_insertionSort (fun a b => key a ≤ key b) l).trans h).trans
    (List.perm_insertionSort (fun a b => key a ≤ key b) l').symm
  refine hperm.eq_of_pairwise ?_ (hsorted l) (hsorted l')
  intro a b ha hb hab hba
  rw [List.mem_insertionSort] at ha hb
  exact hinj a ha b (h.mem_iff.mpr hb) (List.le_antisymm hab hba)

/-! ### The three manifests -/

/-- The content files of a folder: those that are no metadata. -/
def contentFiles (tree : Tree) : List (List Str × Bytes) :=
  tree.files.filter fun file => !isOsMetadata (join file.1)

variable {folder : LocalFolder} {pick : Pick folder} {parts : List Part}

theorem LocalFolder.path_ne_nil {file : List Str × Bytes} (h : file ∈ folder.tree.files) :
    file.1 ≠ [] := (folder.tree.disjoint file h).1

theorem isOsMetadata_usv {file : List Str × Bytes} (h : file ∈ folder.tree.files) :
    isOsMetadata (join (file.1.map usv)) = isOsMetadata (join file.1) := by
  have hne := folder.path_ne_nil h
  have hslash : ∀ part ∈ file.1, slash ∉ part := fun part hpart =>
    (folder.files_named file h part hpart).slash
  have hslash' : ∀ part ∈ file.1.map usv, slash ∉ part := by
    intro part hpart
    obtain ⟨part, hmem, rfl⟩ := List.mem_map.mp hpart
    exact fun hmem' => hslash part hmem (slash_mem_usv_iff.mp hmem')
  rw [isOsMetadata_join hslash hne, isOsMetadata_join hslash' (by simpa using hne), List.any_map]
  exact congrArg (List.any file.1) (funext fun seg => osMetadataName_usv seg)

section Manifests

variable (sha256 : Bytes → String)

/-- The entries of files. -/
def fileEntries (files : List (List Str × Bytes)) : List ManifestEntry :=
  files.map fun file => manifestEntry sha256 (join file.1) file.2

/-- Entries in the order of the bytes of their paths. -/
def sortedManifest (entries : List ManifestEntry) : List ManifestEntry :=
  entries.insertionSort fun entry entry' => utf8 entry.relativePath ≤ utf8 entry'.relativePath

theorem sort_compareBytes (replacement : Point) {entries : List ManifestEntry}
    (h : ∀ entry ∈ entries, encodable entry.relativePath) :
    entries.insertionSort (fun entry entry' => compareBytes
      (utf8With replacement entry.relativePath) (utf8With replacement entry'.relativePath) ≤ 0) =
        sortedManifest entries := by
  have hsame : ∀ a ∈ entries, ∀ b ∈ entries, (compareBytes (utf8With replacement a.relativePath)
      (utf8With replacement b.relativePath) ≤ 0 ↔ utf8 a.relativePath ≤ utf8 b.relativePath) := by
    intro a ha b hb
    rw [compareBytes_le_zero_iff, utf8With_eq _ (h a ha), utf8With_eq _ (h b hb)]
  have hmap := List.map_insertionSort
    (fun entry entry' : ManifestEntry => compareBytes (utf8With replacement entry.relativePath)
      (utf8With replacement entry'.relativePath) ≤ 0)
    (fun entry entry' : ManifestEntry => utf8 entry.relativePath ≤ utf8 entry'.relativePath)
    (fun entry => entry) entries hsame
  rwa [List.map_id', List.map_id'] at hmap

theorem sortedManifest_congr {entries entries' : List ManifestEntry} (hperm : entries.Perm entries')
    (h : ∀ entry ∈ entries, encodable entry.relativePath)
    (hnodup : (entries.map ManifestEntry.relativePath).Nodup) :
    sortedManifest entries = sortedManifest entries' := by
  refine @insertionSort_eq_of_perm _ (fun entry : ManifestEntry => utf8 entry.relativePath)
    _ _ hperm fun a ha b hb heq => ?_
  exact List.inj_on_of_nodup_map hnodup ha hb (utf8_inj (h a ha) (h b hb) heq)

theorem mem_map_relativePath {files : List (List Str × Bytes)} {name : Str} :
    name ∈ (fileEntries sha256 files).map ManifestEntry.relativePath ↔
      ∃ file ∈ files, join file.1 = name := by
  rw [fileEntries, List.map_map, List.mem_map]
  rfl

theorem components_of_content {file : List Str × Bytes} (h : file ∈ contentFiles folder.tree) :
    components (join file.1) = file.1 := by
  have hmem := (List.mem_filter.mp h).1
  exact components_join (fun part hpart => (folder.files_named file hmem part hpart).slash)
    (folder.path_ne_nil hmem)

/-- Different files have different paths. -/
theorem nodup_fileEntries : ((fileEntries sha256 (contentFiles folder.tree)).map
    ManifestEntry.relativePath).Nodup := by
  have hnodup : ((contentFiles folder.tree).map Prod.fst).Nodup :=
    folder.tree.nodup.sublist (List.filter_sublist.map _)
  rw [fileEntries, List.map_map]
  have hcomp : (ManifestEntry.relativePath ∘ fun file : List Str × Bytes =>
      manifestEntry sha256 (join file.1) file.2) = join ∘ Prod.fst := rfl
  rw [hcomp, ← List.map_map]
  refine hnodup.map_on fun path hpath path' hpath' heq => ?_
  have hcomponents : ∀ path ∈ (contentFiles folder.tree).map Prod.fst,
      components (join path) = path := by
    intro path hpath
    obtain ⟨file, hfile, rfl⟩ := List.mem_map.mp hpath
    exact components_of_content hfile
  rw [← hcomponents path hpath, heq, hcomponents path' hpath']

theorem iterFiles_eq (tree : Tree) : Server.iterFiles tree =
    (contentFiles tree).map fun file => (join file.1, file.2) := by
  rw [Server.iterFiles, List.filter_map, contentFiles]
  rfl

/-- The manifest of the server. -/
theorem server_dirManifest_eq_ok_iff (tree : Tree) (manifest : List ManifestEntry) :
    Server.dirManifest sha256 tree = .ok manifest ↔
      (∀ file ∈ contentFiles tree, encodable (join file.1)) ∧
        manifest = sortedManifest (fileEntries sha256 (contentFiles tree)) := by
  have hentries : ((Server.iterFiles tree).map fun file => manifestEntry sha256 file.1 file.2) =
      fileEntries sha256 (contentFiles tree) := by
    rw [iterFiles_eq, List.map_map, fileEntries]
    rfl
  rw [Server.dirManifest]
  simp only [hentries]
  split
  · rename_i entry hfind
    refine ⟨fun h => absurd h (by simp), ?_⟩
    rintro ⟨hall, -⟩
    obtain ⟨file, hfile, rfl⟩ := List.mem_map.mp (List.mem_of_find?_eq_some hfind)
    have hnot := List.find?_some hfind
    rw [manifestEntry, hall file hfile] at hnot
    exact absurd hnot (by simp)
  · rename_i hnone
    rw [Except.ok.injEq]
    constructor
    · rintro rfl
      refine ⟨fun file hfile => ?_, rfl⟩
      have hmem : manifestEntry sha256 (join file.1) file.2 ∈
          fileEntries sha256 (contentFiles tree) := List.mem_map_of_mem hfile
      simpa [manifestEntry] using List.find?_eq_none.mp hnone _ hmem
    · rintro ⟨-, rfl⟩
      rfl

theorem stripTopLevel_pick {path : List Str} (hne : path ≠ []) :
    Browser.stripTopLevel (usv (join (folder.name :: path))) = usv (join path) := by
  have hname : slash ∉ usv folder.name := fun hmem =>
    folder.named.slash (slash_mem_usv_iff.mp hmem)
  obtain ⟨next, rest, rfl⟩ := List.exists_cons_of_ne_nil hne
  have hjoin : usv (join (folder.name :: next :: rest)) =
      usv folder.name ++ slash :: usv (join (next :: rest)) := by
    rw [usv_join, usv_join]
    simp only [List.map_cons, join_cons_cons]
  have hdrop : (usv folder.name ++ slash :: usv (join (next :: rest))).dropWhile
      (fun c => c ≠ slash) = slash :: usv (join (next :: rest)) := by
    have hall : ∀ c ∈ usv folder.name, decide (c ≠ slash) = true := by
      intro c hc
      rw [decide_eq_true_iff]
      rintro rfl
      exact hname hc
    rw [List.dropWhile_append_of_pos hall, List.dropWhile_cons_of_neg (by simp)]
  rw [Browser.stripTopLevel, hjoin, if_pos (by simp), laterSegments, hdrop]
  rfl

theorem usv_join_ne_nil {part : Str} {path : List Str} (h : part ≠ []) :
    usv (join (part :: path)) ≠ [] := by
  have hsub : part ⊆ join (part :: path) := subset_join List.mem_cons_self
  intro hnil
  rw [usv, List.map_eq_nil_iff] at hnil
  rw [hnil] at hsub
  exact h (List.subset_nil.mp hsub)

/-- The page has the test of the server. -/
theorem browser_isOsMetadata_eq (relPath : Str) :
    Browser.isOsMetadata relPath = isOsMetadata relPath := rfl

/-- The manifest of the page is that of the server, when there is one. -/
theorem browser_dirManifest_eq (pick : Pick folder)
    (hunicode : ∀ file ∈ contentFiles folder.tree, encodable (join file.1)) :
    Browser.dirManifest sha256 pick =
      sortedManifest (fileEntries sha256 (contentFiles folder.tree)) := by
  -- what the page makes of the list of picked files, in whatever order
  let content : List (Str × Bytes) → List (Str × Bytes) := fun files =>
    (((files.filter fun file => file.1 ≠ []).map fun file =>
      (Browser.stripTopLevel file.1, file.2)).filter fun file => file.1 ≠ []).filter
        fun file => !Browser.isOsMetadata file.1
  have hperm : (content pick.files).Perm (content
      (folder.tree.files.map fun file => (usv (join (folder.name :: file.1)), file.2))) :=
    (((pick.perm.filter _).map _).filter _).filter _
  have hcontent : content (folder.tree.files.map fun file =>
      (usv (join (folder.name :: file.1)), file.2)) =
        (contentFiles folder.tree).map fun file => (join file.1, file.2) := by
    have hname : ∀ file ∈ folder.tree.files, usv (join (folder.name :: file.1)) ≠ [] ∧
        usv (join file.1) ≠ [] := by
      intro file hfile
      obtain ⟨part, rest, hpath⟩ := List.exists_cons_of_ne_nil (folder.path_ne_nil hfile)
      have hpart := (folder.files_named file hfile part (hpath ▸ List.mem_cons_self)).ne_nil
      rw [hpath]
      exact ⟨usv_join_ne_nil folder.named.ne_nil, usv_join_ne_nil hpart⟩
    have hfirst : (folder.tree.files.map fun file =>
        (usv (join (folder.name :: file.1)), file.2)).filter (fun file => file.1 ≠ []) =
          folder.tree.files.map fun file => (usv (join (folder.name :: file.1)), file.2) := by
      rw [List.filter_eq_self]
      intro file hfile
      obtain ⟨file, hmem, rfl⟩ := List.mem_map.mp hfile
      exact decide_eq_true (hname file hmem).1
    have hstrip : (folder.tree.files.map fun file =>
        (usv (join (folder.name :: file.1)), file.2)).map (fun file =>
          (Browser.stripTopLevel file.1, file.2)) =
            folder.tree.files.map fun file => (usv (join file.1), file.2) := by
      rw [List.map_map]
      refine List.map_congr_left fun file hfile => ?_
      rw [Function.comp_apply, stripTopLevel_pick (folder.path_ne_nil hfile)]
    have hsecond : (folder.tree.files.map fun file => (usv (join file.1), file.2)).filter
        (fun file => file.1 ≠ []) =
          folder.tree.files.map fun file => (usv (join file.1), file.2) := by
      rw [List.filter_eq_self]
      intro file hfile
      obtain ⟨file, hmem, rfl⟩ := List.mem_map.mp hfile
      exact decide_eq_true (hname file hmem).2
    have hmetadata : folder.tree.files.filter ((fun file : Str × Bytes =>
        !Browser.isOsMetadata file.1) ∘ fun file => (usv (join file.1), file.2)) =
          contentFiles folder.tree := by
      refine List.filter_congr fun file hfile => ?_
      rw [Function.comp_apply, browser_isOsMetadata_eq, usv_join, isOsMetadata_usv hfile]
    have hunicode' : (contentFiles folder.tree).map (fun file => (usv (join file.1), file.2)) =
        (contentFiles folder.tree).map fun file => (join file.1, file.2) := by
      refine List.map_congr_left fun file hfile => ?_
      rw [usv_eq_self (hunicode file hfile)]
    simp only [content]
    rw [hfirst, hstrip, hsecond, List.filter_map, hmetadata, hunicode']
  rw [hcontent] at hperm
  have hentries : ((content pick.files).map fun file => manifestEntry sha256 file.1 file.2).Perm
      (fileEntries sha256 (contentFiles folder.tree)) := by
    have hmap := hperm.map fun file => manifestEntry sha256 file.1 file.2
    rw [List.map_map] at hmap
    exact hmap
  have hencodable : ∀ entry ∈ fileEntries sha256 (contentFiles folder.tree),
      encodable entry.relativePath := by
    intro entry hentry
    obtain ⟨file, hfile, rfl⟩ := List.mem_map.mp hentry
    exact hunicode file hfile
  have hencodable' : ∀ entry ∈ (content pick.files).map
      (fun file => manifestEntry sha256 file.1 file.2), encodable entry.relativePath :=
    fun entry hentry => hencodable entry (hentries.mem_iff.mp hentry)
  refine (sort_compareBytes 0xfffd hencodable').trans (sortedManifest_congr hentries hencodable' ?_)
  exact (hentries.map _).nodup_iff.mpr (nodup_fileEntries sha256)

/-! ### The walk of the device -/

/-- The entries of the files among these paths. -/
def walkedEntries (t : Disk (id : Str → Str) Bytes) (paths : List (List Str)) :
    List ManifestEntry :=
  paths.filterMap fun path => (t.read path).map (manifestEntry sha256 (join path))

variable {order : Listing Str} {t : Disk (id : Str → Str) Bytes}

theorem read_of_isDirectory {path : List Str} (h : t.isDirectory path) : t.read path = none := by
  rcases isDirectory_iff.mp h with rfl | ⟨stored, hfind⟩
  · rw [Disk.read, find_nil]
  · rw [Disk.read, hfind]

theorem walkedEntries_append (paths paths' : List (List Str)) :
    walkedEntries sha256 t (paths ++ paths') =
      walkedEntries sha256 t paths ++ walkedEntries sha256 t paths' :=
  List.filterMap_append

/-- One child of a directory. -/
theorem visitChild_eq {walk : List Str → List ManifestEntry →
      Except ManifestError (List ManifestEntry)} {below : List (List Str)} {child : List Str}
    {out : List ManifestEntry}
    (h : (out ++
      walkedEntries sha256 t (child :: if t.isDirectory child then below else [])).length ≤
      Device.maxVerifyDirEntries)
    (hwalk : (out ++ walkedEntries sha256 t below).length ≤ Device.maxVerifyDirEntries →
      walk child out = .ok (out ++ walkedEntries sha256 t below)) :
    Device.visitChild sha256 t walk out child =
      .ok (out ++ walkedEntries sha256 t (child :: if t.isDirectory child then below else [])) := by
  rw [Device.visitChild]
  by_cases hdir : t.isDirectory child
  · have hnone : walkedEntries sha256 t (child :: below) = walkedEntries sha256 t below := by
      rw [walkedEntries, List.filterMap_cons_none (by rw [read_of_isDirectory hdir]; rfl),
        walkedEntries]
    rw [if_pos hdir, hnone] at h
    rw [if_pos hdir, if_pos hdir, hnone]
    exact hwalk h
  · rw [if_neg hdir] at h
    rw [if_neg hdir, if_neg hdir]
    rcases hread : t.read child with _ | content
    · simp [walkedEntries, hread]
    · simp only [walkedEntries, List.filterMap_cons, hread, Option.map_some,
        List.filterMap_nil, List.length_append, List.length_singleton] at h ⊢
      rw [if_neg (by omega)]

/-- The walk collects the files below a directory, when they are not too many. -/
theorem walkDir_eq {n : Nat} {dir : List Str} {out : List ManifestEntry}
    (h : (out ++ walkedEntries sha256 t (walkBelow order t n dir)).length ≤
      Device.maxVerifyDirEntries) :
    Device.walkDir sha256 order t n dir out =
      .ok (out ++ walkedEntries sha256 t (walkBelow order t n dir)) := by
  induction n generalizing dir out with
  | zero => rw [Device.walkDir, walkBelow, walkedEntries, List.filterMap_nil, List.append_nil]
  | succ n ih =>
    rw [Device.walkDir]
    rw [walkBelow] at h ⊢
    generalize listFiles order t dir = children at h ⊢
    induction children generalizing out with
    | nil => simp [walkedEntries, pure, Except.pure]
    | cons child children ihl =>
      rw [List.flatMap_cons, walkedEntries_append, ← List.append_assoc] at h ⊢
      have hfirst := h
      rw [List.length_append] at hfirst
      rw [List.foldlM_cons, visitChild_eq sha256 (by omega) fun hle => ih hle]
      exact ihl h

theorem walkedEntries_eq : walkedEntries sha256 t (walkTopDown order t) =
    fileEntries sha256 (stagedContents order t) := by
  rw [walkedEntries, fileEntries, stagedContents, List.map_filterMap]
  simp only [Option.map_map]
  rfl

/-- The manifest of the device. -/
theorem device_dirManifest_eq (h : (stagedContents order t).length ≤ Device.maxVerifyDirEntries) :
    Device.dirManifest sha256 order t = .ok
      ((fileEntries sha256 (stagedContents order t)).insertionSort fun entry entry' =>
        Device.utf8Compare entry.relativePath entry'.relativePath ≤ 0) := by
  have hwalk := @walkDir_eq sha256 order t (depth t) [] [] (by
    rw [List.nil_append, ← walkTopDown, walkedEntries_eq, fileEntries, List.length_map]
    exact h)
  rw [List.nil_append, ← walkTopDown, walkedEntries_eq] at hwalk
  rw [Device.dirManifest, hwalk]
  rfl

/-- The three sides have the same manifest. -/
def SameManifest (pick : Pick folder) (order : Listing Str) (t : Disk (id : Str → Str) Bytes) :
    Prop :=
  Server.dirManifest sha256 folder.tree = .ok (Browser.dirManifest sha256 pick) ∧
    Device.dirManifest sha256 order t = .ok (Browser.dirManifest sha256 pick)

/-- The three sides have the same tree hash. -/
def SameTreeHash (pick : Pick folder) (order : Listing Str) (t : Disk (id : Str → Str) Bytes) :
    Prop :=
  Server.treeHash sha256 folder.tree = .ok (Browser.treeHash sha256 pick) ∧
    Device.treeHash sha256 order t = .ok (Browser.treeHash sha256 pick)

/-- From the same manifest all hash the same bytes. -/
theorem SameManifest.sameTreeHash (h : SameManifest sha256 pick order t) :
    SameTreeHash sha256 pick order t := by
  obtain ⟨hserver, hdevice⟩ := h
  obtain ⟨hunicode, hmanifest⟩ := (server_dirManifest_eq_ok_iff sha256 _ _).mp hserver
  have hline : ∀ replacement, (Browser.dirManifest sha256 pick).flatMap
      (fun entry => utf8With replacement entry.line) =
        (Browser.dirManifest sha256 pick).flatMap fun entry => utf8 entry.line := by
    intro replacement
    refine List.flatMap_congr fun entry hentry => utf8With_eq replacement ?_
    rw [hmanifest, sortedManifest, List.mem_insertionSort] at hentry
    obtain ⟨file, hfile, rfl⟩ := List.mem_map.mp hentry
    rw [ManifestEntry.line, encodable, List.all_append, Bool.and_eq_true]
    exact ⟨hunicode file hfile, encodable_ofString _⟩
  rw [SameTreeHash, Server.treeHash, Device.treeHash, Browser.treeHash, Browser.foldTreeHash,
    hserver, hdevice, hline]
  refine ⟨rfl, ?_⟩
  rw [← hline 63]
  rfl

end Manifests

end StylyMdm.Files
