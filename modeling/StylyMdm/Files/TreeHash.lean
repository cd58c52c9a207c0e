import StylyMdm.Files.Manifest

/-!
# What a tree hash tells apart

`dir_manifest` hands to SHA-256, for each file, its path, its size and its digest, each with a
newline after it. A name may itself hold newlines, and nothing escapes them: the records of several
files can also be read as the record of one file with a long name.

So the bytes identify the tree only if it has at most one file (`tree_hash_identifies_iff`). Two
trees with the same bytes differ only by such names (`eq_of_records_eq`).

Of the digest only its form is used: 64 hexadecimal digits, none of which is a newline. In one
direction, equal texts begin with equal records, unless one path is the other one with a newline and
more behind it (`Continues`). In the other direction, two
neighbouring records of the sorted manifest are fused into the name of one file (`line_fused`,
`exists_fused`); the new name is one that a file system allows (`ValidPath.fuse`).

Whether two different byte strings have the same SHA-256 is not the question here: the statement is
about what is hashed.
-/

namespace StylyMdm.Files

open Text

/-- `\n`. -/
def newline : Point := 10

/-- A directory tree with the names of a POSIX file system, as far as they are UTF-8. -/
structure PosixTree where
  tree : Tree
  named : ∀ file ∈ tree.files, ∀ part ∈ file.1, LocalName part
  encodable : ∀ file ∈ tree.files, ∀ part ∈ file.1, encodable part

/-- What `dir_manifest` feeds to the hash. -/
def Server.hashed (sha256 : Bytes → String) (tree : Tree) : Except ManifestError (List UInt8) :=
  (dirManifest sha256 tree).map fun entries => entries.flatMap fun entry => utf8 entry.line

/-! ### Records -/

/-- The records of entries, as a text. -/
def records (entries : List ManifestEntry) : Str := entries.flatMap ManifestEntry.line

/-- What follows the path in a record. -/
def ManifestEntry.tail (entry : ManifestEntry) : Str :=
  ofString (toString entry.size) ++ newline :: (ofString entry.sha256 ++ [newline])

/-- `hexdigest()` of SHA-256: 64 hexadecimal digits. -/
def IsDigest (digest : String) : Prop :=
  digest.toList.length = 64 ∧ ∀ c ∈ digest.toList, c.isHexDigit

/-- What a size and a digest are made of. -/
def isNumeral (c : Point) : Prop := 48 ≤ c.val ∧ c.val < 128

section Records

variable {entry entry' : ManifestEntry} {entries entries' : List ManifestEntry} {rest rest' : Str}

theorem ofString_append (s t : String) : ofString (s ++ t) = ofString s ++ ofString t := by
  rw [ofString, String.toList_append, List.map_append]
  rfl

theorem line_eq (entry : ManifestEntry) :
    entry.line = entry.relativePath ++ newline :: entry.tail := by
  have hnewline : ofString "\n" = [newline] := by decide
  simp only [ManifestEntry.line, ManifestEntry.tail, ofString_append, hnewline,
    List.append_assoc, List.cons_append, List.nil_append]

/-- The first part of a text, up to a character it does not hold. -/
theorem append_cons_inj {c : Point} {l l' : Str} (hl : c ∉ l) (hl' : c ∉ l')
    (h : l ++ c :: rest = l' ++ c :: rest') : l = l' ∧ rest = rest' := by
  induction l generalizing l' with
  | nil =>
    rcases l' with _ | ⟨d, l'⟩
    · exact ⟨rfl, (List.cons.inj h).2⟩
    · rw [List.mem_cons, not_or] at hl'
      exact absurd (List.cons.inj h).1 hl'.1
  | cons d l ih =>
    rw [List.mem_cons, not_or] at hl
    rcases l' with _ | ⟨d', l'⟩
    · exact absurd (List.cons.inj h).1.symm hl.1
    · rw [List.mem_cons, not_or] at hl'
      obtain ⟨hd, htail⟩ := List.cons.inj h
      obtain ⟨hsame, hrest⟩ := ih hl.2 hl'.2 htail
      exact ⟨by rw [hd, hsame], hrest⟩

/-- The last part of a text, down to a character it does not hold. -/
theorem append_cons_inj_right {c : Point} {l l' : Str} (hrest : c ∉ rest) (hrest' : c ∉ rest')
    (h : l ++ c :: rest = l' ++ c :: rest') : l = l' ∧ rest = rest' := by
  have hreverse : rest.reverse ++ c :: l.reverse = rest'.reverse ++ c :: l'.reverse := by
    have hboth := congrArg List.reverse h
    simpa using hboth
  obtain ⟨hend, hstart⟩ := append_cons_inj (by simpa using hrest) (by simpa using hrest') hreverse
  exact ⟨List.reverse_inj.1 hstart, List.reverse_inj.1 hend⟩

theorem isNumeral_size {n : Nat} {c : Point} (h : c ∈ ofString (toString n)) : isNumeral c := by
  obtain ⟨d, hd, rfl⟩ := List.mem_map.1 h
  rw [Nat.toString_eq_repr, Nat.toList_repr] at hd
  have hdigit := Nat.isDigit_of_mem_toDigits (by omega) (by omega) hd
  simp only [Char.isDigit, Bool.and_eq_true, decide_eq_true_iff, ge_iff_le,
    UInt32.le_iff_toNat_le] at hdigit
  have hnat : d.val.toNat = d.toNat := rfl
  have h0 : '0'.val.toNat = 48 := rfl
  have h9 : '9'.val.toNat = 57 := rfl
  change 48 ≤ d.toNat ∧ d.toNat < 128
  omega

theorem isNumeral_digest {digest : String} (hdigest : IsDigest digest) {c : Point}
    (h : c ∈ ofString digest) : isNumeral c := by
  obtain ⟨d, hd, rfl⟩ := List.mem_map.1 h
  have hhex := hdigest.2 d hd
  simp only [Char.isHexDigit, Char.isDigit, Bool.or_eq_true, Bool.and_eq_true, decide_eq_true_iff,
    ge_iff_le, UInt32.le_iff_toNat_le] at hhex
  have hnat : d.val.toNat = d.toNat := rfl
  have h0 : '0'.val.toNat = 48 := rfl
  have h9 : '9'.val.toNat = 57 := rfl
  have ha : 'a'.val.toNat = 97 := rfl
  have hf : 'f'.val.toNat = 102 := rfl
  have hA : 'A'.val.toNat = 65 := rfl
  have hF : 'F'.val.toNat = 70 := rfl
  change 48 ≤ d.toNat ∧ d.toNat < 128
  omega

theorem newline_not_mem {text : Str} (h : ∀ c ∈ text, isNumeral c) : newline ∉ text := by
  intro hmem
  have hle : 48 ≤ 10 := (h newline hmem).1
  omega

theorem size_inj {n n' : Nat} (h : ofString (toString n) = ofString (toString n')) : n = n' := by
  rw [ofString_inj, Nat.toString_eq_repr, Nat.toString_eq_repr, Nat.repr_inj] at h
  exact h

/-- With digests at their ends, two records are read alike from the right. -/
theorem append_line_inj (h : IsDigest entry.sha256) (h' : IsDigest entry'.sha256)
    (heq : rest ++ entry.line = rest' ++ entry'.line) :
    rest ++ entry.relativePath = rest' ++ entry'.relativePath ∧ entry.size = entry'.size ∧
      entry.sha256 = entry'.sha256 := by
  have hsize : ∀ n : Nat, newline ∉ ofString (toString n) := fun n =>
    newline_not_mem fun c hc => isNumeral_size hc
  have hdigest : ∀ {digest : String}, IsDigest digest → newline ∉ ofString digest := fun h =>
    newline_not_mem fun c hc => isNumeral_digest h hc
  have hshape : ∀ (rest : Str) (entry : ManifestEntry), rest ++ entry.line =
      ((rest ++ entry.relativePath) ++ newline :: ofString (toString entry.size)) ++
        newline :: ofString entry.sha256 ++ [newline] := by
    intro rest entry
    rw [line_eq, ManifestEntry.tail]
    simp only [List.append_assoc, List.cons_append]
  rw [hshape, hshape] at heq
  obtain ⟨hbody, hsha⟩ := append_cons_inj_right (hdigest h) (hdigest h')
    (List.append_cancel_right heq)
  obtain ⟨hpath, hsame⟩ := append_cons_inj_right (hsize _) (hsize _) hbody
  exact ⟨hpath, size_inj hsame, ofString_inj.1 hsha⟩

/-- Does the path go on after the other one with a newline? -/
def Continues (path path' : Str) : Prop := path ++ [newline] <+: path'

theorem continues_of_append {path path' : Str} (hlt : path.length < path'.length)
    (heq : path ++ newline :: rest = path' ++ newline :: rest') : Continues path path' := by
  have hleft : path ++ [newline] <+: path ++ newline :: rest := ⟨rest, by simp⟩
  have hright : path' <+: path ++ newline :: rest := ⟨newline :: rest', heq.symm⟩
  exact List.prefix_of_prefix_length_le hleft hright (by simpa using hlt)

/-- With no such path, two records are read alike from the left. -/
theorem line_append_inj (h : ¬ Continues entry.relativePath entry'.relativePath)
    (h' : ¬ Continues entry'.relativePath entry.relativePath) (hdigest : IsDigest entry.sha256)
    (hdigest' : IsDigest entry'.sha256) (heq : entry.line ++ rest = entry'.line ++ rest') :
    entry = entry' ∧ rest = rest' := by
  have hshape : ∀ (entry : ManifestEntry) (rest : Str), entry.line ++ rest =
      entry.relativePath ++ newline :: (ofString (toString entry.size) ++
        newline :: (ofString entry.sha256 ++ newline :: rest)) := by
    intro entry rest
    rw [line_eq, ManifestEntry.tail]
    simp only [List.append_assoc, List.cons_append, List.nil_append]
  rw [hshape, hshape] at heq
  have hlength : entry.relativePath.length = entry'.relativePath.length := by
    rcases lt_trichotomy entry.relativePath.length entry'.relativePath.length with hlt | heq' | hlt
    · exact absurd (continues_of_append hlt heq) h
    · exact heq'
    · exact absurd (continues_of_append hlt heq.symm) h'
  obtain ⟨hpath, htail⟩ := List.append_inj heq hlength
  obtain ⟨hsize, htail⟩ := append_cons_inj
    (newline_not_mem fun c hc => isNumeral_size hc)
    (newline_not_mem fun c hc => isNumeral_size hc) (List.cons.inj htail).2
  obtain ⟨hsha, hrest⟩ := append_cons_inj
    (newline_not_mem fun c hc => isNumeral_digest hdigest hc)
    (newline_not_mem fun c hc => isNumeral_digest hdigest' hc) htail
  refine ⟨?_, hrest⟩
  obtain ⟨path, size, sha⟩ := entry
  obtain ⟨path', size', sha'⟩ := entry'
  rw [ManifestEntry.mk.injEq]
  exact ⟨hpath, size_inj hsize, ofString_inj.1 hsha⟩

/-- **Where no path continues another one, the records identify the entries.** -/
theorem eq_of_records_eq (hdigest : ∀ entry ∈ entries, IsDigest entry.sha256)
    (hdigest' : ∀ entry ∈ entries', IsDigest entry.sha256)
    (h : ∀ entry ∈ entries, ∀ entry' ∈ entries',
      ¬ Continues entry.relativePath entry'.relativePath ∧
      ¬ Continues entry'.relativePath entry.relativePath)
    (heq : records entries = records entries') : entries = entries' := by
  have hne : ∀ (entry : ManifestEntry) (rest : Str), entry.line ++ rest ≠ [] := by
    intro entry rest
    rw [line_eq]
    simp
  induction entries generalizing entries' with
  | nil =>
    rcases entries' with _ | ⟨entry', entries'⟩
    · rfl
    · exact absurd heq.symm (hne entry' (records entries'))
  | cons entry entries ih =>
    rcases entries' with _ | ⟨entry', entries'⟩
    · exact absurd heq (hne entry (records entries))
    · rw [List.forall_mem_cons] at hdigest hdigest'
      obtain ⟨hfirst, hrest⟩ := List.forall_mem_cons.1 h
      obtain ⟨rfl, hsame⟩ := line_append_inj (hfirst entry' List.mem_cons_self).1
        (hfirst entry' List.mem_cons_self).2 hdigest.1 hdigest'.1 heq
      rw [ih hdigest.2 hdigest'.2
        (fun e he e' he' => hrest e he e' (List.mem_cons_of_mem _ he')) hsame]

theorem records_eq_nil_iff : records entries = [] ↔ entries = [] := by
  rcases entries with _ | ⟨entry, entries⟩
  · simp [records]
  · simp [records, line_eq]

end Records

/-! ### Paths that fuse -/

/-- A path as `_iter_files` yields them, as a text. -/
def ValidPath (text : Str) : Prop :=
  ∀ part ∈ components text, LocalName part ∧ encodable part ∧ osMetadataName part = false

section Fuse

variable {text text' middle : Str} {parts : List Str} {part part' : Str}

theorem join_glue (parts parts' : List Str) (part part' middle : Str) :
    join (parts ++ [part]) ++ middle ++ join (part' :: parts') =
      join (parts ++ (part ++ middle ++ part') :: parts') := by
  induction parts with
  | nil =>
    have hsingle : join [part] = part := List.intercalate_singleton
    rw [List.nil_append, List.nil_append, hsingle]
    rcases parts' with _ | ⟨next, parts'⟩
    · simp [join]
    · rw [join_cons_cons, join_cons_cons]
      simp
  | cons first parts ih =>
    obtain ⟨next, rest, hrest⟩ := List.exists_cons_of_ne_nil
      (List.append_ne_nil_of_right_ne_nil parts (List.cons_ne_nil part []))
    obtain ⟨next', rest', hrest'⟩ := List.exists_cons_of_ne_nil
      (List.append_ne_nil_of_right_ne_nil parts
        (List.cons_ne_nil (part ++ middle ++ part') parts'))
    rw [List.cons_append, List.cons_append, hrest, hrest', join_cons_cons, join_cons_cons,
      ← hrest, ← hrest', ← ih]
    simp

/-- No mark of metadata reaches over a newline. -/
theorem osMetadataName_newline (h : osMetadataName part = false) (rest : Str) :
    osMetadataName (part ++ newline :: rest) = false := by
  rw [Bool.eq_false_iff] at h ⊢
  refine fun hname => h ?_
  obtain ⟨mark, hmark, hpre, hlength⟩ := osMetadataName_iff.1 hname
  have hnewline : newline ∉ mark := by
    have hplain := List.all_eq_true.1 (plain_of_mem_metadataMarks mark hmark).2.2
    exact fun hmem => absurd (hplain newline hmem) (by decide)
  have hle : mark.length ≤ (part.map lower).length := by
    by_contra hlt
    have hlong : part.map lower ++ [newline] <+: (part ++ newline :: rest).map lower :=
      ⟨rest.map lower, by rw [List.map_append, List.map_cons, List.append_assoc]; rfl⟩
    have hinside : part.map lower ++ [newline] <+: mark :=
      List.prefix_of_prefix_length_le hlong hpre (by simpa using hlt)
    exact hnewline (hinside.subset (by simp))
  have hpart : mark <+: part.map lower :=
    List.prefix_of_prefix_length_le hpre ⟨_, List.map_append.symm⟩ hle
  refine osMetadataName_iff.2 ⟨mark, hmark, hpart, fun hmem => ?_⟩
  have hlong := hlength hmem
  rw [List.length_append, List.length_cons] at hlong
  rw [List.length_map] at hle
  omega

/-- What stands between two paths in a run of records makes one path of them. -/
theorem ValidPath.fuse (h : ValidPath text) (h' : ValidPath text')
    (hmiddle : ∀ c ∈ middle, isNumeral c ∨ c = newline) :
    ValidPath (text ++ newline :: middle ++ text') := by
  obtain ⟨parts, part, hparts⟩ : ∃ parts part, components text = parts ++ [part] := by
    rcases List.eq_nil_or_concat (components text) with hnil | ⟨parts, part, hparts⟩
    · exact absurd hnil (components_ne_nil text)
    · exact ⟨parts, part, by rw [hparts, List.concat_eq_append]⟩
  obtain ⟨part', parts', hparts'⟩ := List.exists_cons_of_ne_nil (components_ne_nil text')
  have hpart := h part (by simp [hparts])
  have hpart' := h' part' (by simp [hparts'])
  have hsmall : ∀ c ∈ newline :: middle, c.val < 128 ∧ c ≠ slash ∧ c ≠ 0 := by
    intro c hc
    rcases List.mem_cons.1 hc with rfl | hc
    · decide
    · rcases hmiddle c hc with hnumeral | rfl
      · refine ⟨hnumeral.2, ?_, ?_⟩
        · rintro rfl
          exact absurd hnumeral.1 (by decide)
        · rintro rfl
          exact absurd hnumeral.1 (by decide)
      · decide
  have hglued : LocalName (part ++ newline :: middle ++ part') ∧
      encodable (part ++ newline :: middle ++ part') = true ∧
      osMetadataName (part ++ newline :: middle ++ part') = false := by
    have hmem : newline ∈ part ++ newline :: middle ++ part' := by simp
    refine ⟨⟨by simp, ?_, ?_, ?_, ?_⟩, ?_, ?_⟩
    · exact fun heq => absurd (heq ▸ hmem) (by decide)
    · exact fun heq => absurd (heq ▸ hmem) (by decide)
    · simp only [List.mem_append, not_or]
      exact ⟨⟨hpart.1.slash, fun hslash => (hsmall _ hslash).2.1 rfl⟩, hpart'.1.slash⟩
    · simp only [List.mem_append, not_or]
      exact ⟨⟨hpart.1.nul, fun hnul => (hsmall _ hnul).2.2 rfl⟩, hpart'.1.nul⟩
    · rw [encodable, List.all_append, List.all_append, Bool.and_eq_true, Bool.and_eq_true]
      refine ⟨⟨hpart.2.1, List.all_eq_true.2 fun c hc => ?_⟩, hpart'.2.1⟩
      have hlt := (hsmall c hc).1
      simp only [isSurrogate, Bool.not_eq_true', Bool.and_eq_false_iff, decide_eq_false_iff_not]
      omega
    · rw [List.append_assoc, List.cons_append]
      exact osMetadataName_newline hpart.2.2 _
  have htext : text ++ newline :: middle ++ text' =
      join (parts ++ (part ++ newline :: middle ++ part') :: parts') := by
    rw [← join_glue, ← hparts, ← hparts', join_components, join_components]
  have hall : ∀ name ∈ parts ++ (part ++ newline :: middle ++ part') :: parts',
      LocalName name ∧ encodable name = true ∧ osMetadataName name = false := by
    intro name hname
    rcases List.mem_append.1 hname with hname | hname
    · exact h name (hparts ▸ List.mem_append_left _ hname)
    · rcases List.mem_cons.1 hname with rfl | hname
      · exact hglued
      · exact h' name (hparts' ▸ List.mem_cons_of_mem _ hname)
  rw [ValidPath, htext, components_join (fun name hname => (hall name hname).1.slash) (by simp)]
  exact hall

/-- The records of files and the path of one more are a path. -/
theorem validPath_records {entries : List ManifestEntry}
    (h : ∀ entry ∈ entries, ValidPath entry.relativePath ∧ IsDigest entry.sha256)
    (h' : ValidPath text) : ValidPath (records entries ++ text) := by
  induction entries with
  | nil => exact h'
  | cons entry entries ih =>
    rw [List.forall_mem_cons] at h
    have hline : records (entry :: entries) ++ text =
        entry.relativePath ++ newline :: entry.tail ++ (records entries ++ text) := by
      rw [records, List.flatMap_cons, line_eq, List.append_assoc]
      rfl
    rw [hline]
    refine h.1.1.fuse (ih h.2) fun c hc => ?_
    rw [ManifestEntry.tail, List.mem_append, List.mem_cons, List.mem_append,
      List.mem_singleton] at hc
    rcases hc with hc | rfl | hc | rfl
    · exact .inl (isNumeral_size hc)
    · exact .inr rfl
    · exact .inl (isNumeral_digest h.1.2 hc)
    · exact .inr rfl

end Fuse

/-! ### Trees -/

/-- The tree of one file. -/
def singleFile (path : Str) (content : Bytes) : Tree where
  dirs := ancestors (components path)
  files := [(components path, content)]
  nodup := List.nodup_singleton _
  dirs_of_file file hfile dir hdir := by
    rw [List.mem_singleton.1 hfile] at hdir
    exact hdir
  disjoint file hfile := by
    rw [List.mem_singleton.1 hfile]
    exact ⟨components_ne_nil path, fun hmem => (mem_ancestors.1 hmem).2.2 rfl⟩

/-- The manifest of `dir_manifest`. -/
def PosixTree.manifest (sha256 : Bytes → String) (t : PosixTree) : List ManifestEntry :=
  sortedManifest (fileEntries sha256 (contentFiles t.tree))

/-- The trees have the same entries. -/
def SameEntries (sha256 : Bytes → String) (t t' : PosixTree) : Prop :=
  ∃ manifest manifest', Server.dirManifest sha256 t.tree = .ok manifest ∧
    Server.dirManifest sha256 t'.tree = .ok manifest' ∧
    ∀ entry, entry ∈ manifest ↔ entry ∈ manifest'

section Trees

variable {sha256 : Bytes → String} {t t' : PosixTree}

/-- The tree as a folder; how that one is called plays no role here. -/
def PosixTree.folder (t : PosixTree) : LocalFolder where
  name := ofString "tree"
  tree := t.tree
  named := ⟨by decide, by decide, by decide, by decide, by decide⟩
  files_named := t.named

theorem encodable_join {path : List Str} (h : ∀ part ∈ path, encodable part = true) :
    encodable (join path) = true := by
  rw [encodable, List.all_eq_true]
  intro c hc
  rcases mem_join hc with rfl | ⟨part, hpart, hmem⟩
  · decide
  · exact List.all_eq_true.1 (h part hpart) c hmem

theorem dirManifest_eq : Server.dirManifest sha256 t.tree = .ok (t.manifest sha256) := by
  refine (server_dirManifest_eq_ok_iff sha256 t.tree _).2 ⟨fun file hfile => ?_, rfl⟩
  exact encodable_join (t.encodable file (List.mem_filter.1 hfile).1)

theorem mem_manifest {entry : ManifestEntry} : entry ∈ t.manifest sha256 ↔
    ∃ file ∈ contentFiles t.tree, manifestEntry sha256 (join file.1) file.2 = entry := by
  rw [PosixTree.manifest, sortedManifest, List.mem_insertionSort, fileEntries, List.mem_map]

theorem validPath_of_content {file : List Str × Bytes} (h : file ∈ contentFiles t.tree) :
    ValidPath (join file.1) := by
  obtain ⟨hfile, hmetadata⟩ := List.mem_filter.1 h
  have hcomponents : components (join file.1) = file.1 :=
    @components_of_content t.folder file h
  rw [ValidPath, hcomponents]
  rw [isOsMetadata_join (fun part hpart => (t.named file hfile part hpart).slash)
    (t.tree.disjoint file hfile).1, Bool.not_eq_true', List.any_eq_false] at hmetadata
  exact fun part hpart => ⟨t.named file hfile part hpart, t.encodable file hfile part hpart,
    Bool.eq_false_of_not_eq_true (hmetadata part hpart)⟩

theorem encodable_line {entry : ManifestEntry} (h : encodable entry.relativePath = true) :
    encodable entry.line = true := by
  rw [ManifestEntry.line, encodable, List.all_append, Bool.and_eq_true]
  exact ⟨h, encodable_ofString _⟩

theorem encodable_records : encodable (records (t.manifest sha256)) = true := by
  rw [encodable, List.all_eq_true]
  intro c hc
  obtain ⟨entry, hentry, hmem⟩ := List.mem_flatMap.1 hc
  obtain ⟨file, hfile, rfl⟩ := mem_manifest.1 hentry
  have hpath := encodable_join (t.encodable file (List.mem_filter.1 hfile).1)
  exact List.all_eq_true.1 (encodable_line hpath) c hmem

theorem hashed_eq : Server.hashed sha256 t.tree = .ok (utf8 (records (t.manifest sha256))) := by
  rw [Server.hashed, dirManifest_eq, Except.map, records, utf8, List.flatMap_assoc]
  rfl

theorem hashed_eq_iff : Server.hashed sha256 t.tree = Server.hashed sha256 t'.tree ↔
    records (t.manifest sha256) = records (t'.manifest sha256) := by
  rw [hashed_eq, hashed_eq, Except.ok.injEq]
  constructor
  · exact utf8_inj encodable_records encodable_records
  · exact congrArg utf8

theorem sameEntries_iff : SameEntries sha256 t t' ↔
    ∀ entry, entry ∈ t.manifest sha256 ↔ entry ∈ t'.manifest sha256 := by
  constructor
  · rintro ⟨manifest, manifest', hm, hm', h⟩
    rw [dirManifest_eq, Except.ok.injEq] at hm hm'
    rwa [hm, hm']
  · exact fun h => ⟨_, _, dirManifest_eq, dirManifest_eq, h⟩

/-- A tree of one file with this path. -/
def PosixTree.single (path : Str) (content : Bytes) (h : ValidPath path) : PosixTree where
  tree := singleFile path content
  named file hfile part hpart := by
    rw [List.mem_singleton.1 hfile] at hpart
    exact (h part hpart).1
  encodable file hfile part hpart := by
    rw [List.mem_singleton.1 hfile] at hpart
    exact (h part hpart).2.1

theorem manifest_single {path : Str} {content : Bytes} (h : ValidPath path) :
    (PosixTree.single path content h).manifest sha256 = [manifestEntry sha256 path content] := by
  have hmetadata : isOsMetadata path = false := by
    rw [isOsMetadata, List.any_eq_false]
    exact fun part hpart => Bool.eq_false_iff.1 (h part hpart).2.2
  have hfiles : contentFiles (PosixTree.single path content h).tree =
      [(components path, content)] := by
    simp [contentFiles, PosixTree.single, singleFile, join_components, hmetadata]
  rw [PosixTree.manifest, hfiles]
  simp [fileEntries, sortedManifest, join_components]

end Trees

/-! ### The trees that are identified -/

/-- Any tree with the same bytes has the same entries. -/
def Identified (sha256 : Bytes → String) (t : PosixTree) : Prop :=
  ∀ t' : PosixTree, Server.hashed sha256 t'.tree = Server.hashed sha256 t.tree →
    SameEntries sha256 t' t

/-- The tree has at most one file, and the path of that file does not itself spell the records of
a tree, as far as the path of the last one. -/
structure Unfused (sha256 : Bytes → String) (t : PosixTree) : Prop where
  one : (contentFiles t.tree).length ≤ 1
  path : ∀ file ∈ contentFiles t.tree, ∀ (t' : PosixTree) (before : List ManifestEntry)
    (last : ManifestEntry), t'.manifest sha256 = before ++ [last] →
    join file.1 = records before ++ last.relativePath → last.size = file.2.length →
    last.sha256 = sha256 file.2 → before = []

section Identified

variable {sha256 : Bytes → String} {t t' : PosixTree}

theorem isDigest_manifest (hdigest : ∀ content, IsDigest (sha256 content)) :
    ∀ entry ∈ t.manifest sha256, IsDigest entry.sha256 := by
  intro entry hentry
  obtain ⟨file, -, rfl⟩ := mem_manifest.1 hentry
  exact hdigest file.2

variable (sha256 t) in
theorem length_manifest : (t.manifest sha256).length = (contentFiles t.tree).length := by
  rw [PosixTree.manifest, sortedManifest, List.length_insertionSort, fileEntries, List.length_map]

/-- All records but the last can be read as a part of the last path. -/
theorem exists_fused (hdigest : ∀ content, IsDigest (sha256 content))
    {before : List ManifestEntry} {last : ManifestEntry}
    (h : t.manifest sha256 = before ++ [last]) : ∃ fused : PosixTree,
      fused.manifest sha256 =
        [{ last with relativePath := records before ++ last.relativePath }] := by
  have hvalid : ∀ entry ∈ before, ValidPath entry.relativePath ∧ IsDigest entry.sha256 := by
    intro entry hentry
    have hmem : entry ∈ t.manifest sha256 := h ▸ List.mem_append_left _ hentry
    refine ⟨?_, isDigest_manifest hdigest entry hmem⟩
    obtain ⟨file, hfile, rfl⟩ := mem_manifest.1 hmem
    exact validPath_of_content hfile
  have hlast : last ∈ t.manifest sha256 := h ▸ List.mem_append_right _ (List.mem_singleton_self _)
  obtain ⟨file, hfile, rfl⟩ := mem_manifest.1 hlast
  exact ⟨.single _ file.2 (validPath_records hvalid (validPath_of_content hfile)),
    manifest_single _⟩

theorem records_concat (before : List ManifestEntry) (last : ManifestEntry) :
    records (before ++ [last]) = records before ++ last.line := by
  simp [records]

theorem line_fused (before : Str) (last : ManifestEntry) :
    ManifestEntry.line { last with relativePath := before ++ last.relativePath } =
      before ++ last.line := by
  rw [ManifestEntry.line, ManifestEntry.line, List.append_assoc]

theorem Identified.one (hdigest : ∀ content, IsDigest (sha256 content))
    (h : Identified sha256 t) : (contentFiles t.tree).length ≤ 1 := by
  rw [← length_manifest sha256 t]
  rcases List.eq_nil_or_concat (t.manifest sha256) with hnil | ⟨before, last, hmanifest⟩
  · rw [hnil]
    exact Nat.zero_le 1
  · rw [List.concat_eq_append] at hmanifest
    obtain ⟨fused, hfused⟩ := exists_fused hdigest hmanifest
    have hsame : SameEntries sha256 fused t := by
      refine h fused (hashed_eq_iff.2 ?_)
      rw [hfused, hmanifest, records_concat, ← line_fused]
      simp [records]
    -- The last entry is the fused one, so there is nothing before it.
    have hmem := (sameEntries_iff.1 hsame last).2 (hmanifest ▸ by simp)
    rw [hfused, List.mem_singleton] at hmem
    have hpath := congrArg ManifestEntry.relativePath hmem
    have hbefore : records before = [] := by simpa using hpath
    rw [hmanifest, records_eq_nil_iff.1 hbefore]
    exact le_rfl

theorem identified_iff (hdigest : ∀ content, IsDigest (sha256 content)) :
    Identified sha256 t ↔ Unfused sha256 t := by
  constructor
  · intro h
    have hone := h.one hdigest
    refine ⟨hone, fun file hfile t' before last ht' hpath hsize hsha => ?_⟩
    obtain ⟨entry, hentry⟩ : ∃ entry, t.manifest sha256 = [entry] := by
      have hpos := List.length_pos_of_mem hfile
      rw [← length_manifest sha256 t] at hone hpos
      exact List.length_eq_one_iff.1 (by omega)
    have hfileEntry : manifestEntry sha256 (join file.1) file.2 = entry := by
      have hmem : manifestEntry sha256 (join file.1) file.2 ∈ t.manifest sha256 :=
        mem_manifest.2 ⟨file, hfile, rfl⟩
      rwa [hentry, List.mem_singleton] at hmem
    have hline : entry = { last with relativePath := records before ++ last.relativePath } := by
      rw [← hfileEntry, manifestEntry, hpath, ← hsize, ← hsha]
    have hsame : SameEntries sha256 t' t := by
      refine h t' (hashed_eq_iff.2 ?_)
      rw [ht', hentry, records_concat, ← line_fused, ← hline]
      simp [records]
    have hmem := (sameEntries_iff.1 hsame last).1 (ht' ▸ by simp)
    rw [hentry, List.mem_singleton, hline] at hmem
    have hbefore := congrArg ManifestEntry.relativePath hmem
    exact records_eq_nil_iff.1 (by simpa using hbefore)
  · intro h t' heq
    rw [hashed_eq_iff] at heq
    have hequal : t'.manifest sha256 = t.manifest sha256 := by
      have hone := h.one
      rw [← length_manifest sha256 t] at hone
      rcases hmanifest : t.manifest sha256 with _ | ⟨entry, _ | ⟨entry', rest⟩⟩
      · rw [hmanifest] at heq
        exact records_eq_nil_iff.1 heq
      · have hentry : entry ∈ t.manifest sha256 := by rw [hmanifest]; simp
        obtain ⟨file, hfile, rfl⟩ := mem_manifest.1 hentry
        rcases List.eq_nil_or_concat (t'.manifest sha256) with hnil | ⟨before, last, ht'⟩
        · rw [hnil, hmanifest] at heq
          exact absurd (records_eq_nil_iff.1 heq.symm) (List.cons_ne_nil _ _)
        · rw [List.concat_eq_append] at ht'
          rw [ht', hmanifest, records_concat,
            show records [manifestEntry sha256 (join file.1) file.2] =
              [] ++ (manifestEntry sha256 (join file.1) file.2).line by simp [records]] at heq
          have hlast : last ∈ t'.manifest sha256 := by rw [ht']; simp
          obtain ⟨hpath, hsize, hsha⟩ :=
            append_line_inj (isDigest_manifest hdigest last hlast) (hdigest file.2) heq
          obtain rfl := h.path file hfile t' before last ht' hpath.symm hsize hsha
          have hsame : last = manifestEntry sha256 (join file.1) file.2 := by
            obtain ⟨path, size, sha⟩ := last
            rw [manifestEntry, ManifestEntry.mk.injEq]
            exact ⟨hpath, hsize, hsha⟩
          rw [ht', hsame]
          rfl
      · rw [hmanifest] at hone
        simp at hone
    rw [sameEntries_iff, hequal]
    exact fun _ => Iff.rfl

/-- Trees with the same bytes are alike if no path of one continues a path of the other. -/
theorem sameEntries_of_hashed_eq (hdigest : ∀ content, IsDigest (sha256 content))
    (h : ∀ file ∈ contentFiles t.tree, ∀ file' ∈ contentFiles t'.tree,
      ¬ Continues (join file.1) (join file'.1) ∧ ¬ Continues (join file'.1) (join file.1))
    (heq : Server.hashed sha256 t.tree = Server.hashed sha256 t'.tree) :
    SameEntries sha256 t t' := by
  have hequal : t.manifest sha256 = t'.manifest sha256 := by
    refine eq_of_records_eq (isDigest_manifest hdigest) (isDigest_manifest hdigest) ?_
      (hashed_eq_iff.1 heq)
    intro entry hentry entry' hentry'
    obtain ⟨file, hfile, rfl⟩ := mem_manifest.1 hentry
    obtain ⟨file', hfile', rfl⟩ := mem_manifest.1 hentry'
    exact h file hfile file' hfile'
  rw [sameEntries_iff, hequal]
  exact fun _ => Iff.rfl

/-- **The tree hash** identifies a tree only if it has at most one file, and among trees in which
no path continues another one after a newline. -/
theorem tree_hash_identifies_iff (hdigest : ∀ content, IsDigest (sha256 content))
    (t : PosixTree) : (Identified sha256 t ↔ Unfused sha256 t) ∧
    ∀ t' : PosixTree, (∀ file ∈ contentFiles t.tree, ∀ file' ∈ contentFiles t'.tree,
      ¬ Continues (join file.1) (join file'.1) ∧ ¬ Continues (join file'.1) (join file.1)) →
      Server.hashed sha256 t.tree = Server.hashed sha256 t'.tree → SameEntries sha256 t t' :=
  ⟨identified_iff hdigest, fun _ h heq => sameEntries_of_hashed_eq hdigest h heq⟩

end Identified

/-! ### One file with the name of two records -/

/-- The hexadecimal digits of the digest of no bytes. -/
def emptyDigits : List Char :=
  ['e', '3', 'b', '0', 'c', '4', '4', '2', '9', '8', 'f', 'c', '1', 'c', '1', '4',
    '9', 'a', 'f', 'b', 'f', '4', 'c', '8', '9', '9', '6', 'f', 'b', '9', '2', '4',
    '2', '7', 'a', 'e', '4', '1', 'e', '4', '6', '4', '9', 'b', '9', '3', '4', 'c',
    'a', '4', '9', '5', '9', '9', '1', 'b', '7', '8', '5', '2', 'b', '8', '5', '5']

/-- The digest of no bytes, for any bytes. -/
def emptyDigest (_ : Bytes) : String := String.ofList emptyDigits

theorem isDigest_emptyDigest (content : Bytes) : IsDigest (emptyDigest content) := by
  have hall : emptyDigits.all Char.isHexDigit = true := by decide +kernel
  rw [IsDigest, emptyDigest, String.toList_ofList]
  exact ⟨rfl, List.all_eq_true.1 hall⟩

theorem validPath_a : ValidPath (ofString "a") := by
  have hcomponents : components (ofString "a") = [ofString "a"] := by decide +kernel
  rw [ValidPath, hcomponents]
  intro part hpart
  rw [List.mem_singleton.1 hpart]
  exact ⟨⟨by decide, by decide, by decide, by decide, by decide⟩, by decide, by decide +kernel⟩

/-- A tree of one empty file `a` is identified. -/
theorem tree_hash_identifies_a :
    Identified emptyDigest (.single (ofString "a") [] validPath_a) := by
  refine ((tree_hash_identifies_iff isDigest_emptyDigest _).1).2 ⟨?_, ?_⟩
  · decide +kernel
  · rintro file hfile t' before last - hpath - -
    have hfile' : file = (components (ofString "a"), []) :=
      List.mem_singleton.1 (List.mem_filter.1 hfile).1
    rw [hfile', join_components] at hpath
    rcases before with _ | ⟨entry, before⟩
    · rfl
    · have hmem : newline ∈ ofString "a" := by
        rw [hpath, records, List.flatMap_cons, line_eq]
        simp
      exact absurd hmem (by decide)

/-- Two empty files `a` and `b`. -/
def twoFiles : PosixTree where
  tree :=
    { dirs := []
      files := [([ofString "a"], []), ([ofString "b"], [])]
      nodup := by decide
      dirs_of_file := by decide
      disjoint := by decide }
  named file hfile part hpart := by
    have hname : part = ofString "a" ∨ part = ofString "b" := by
      rcases List.mem_pair.1 hfile with rfl | rfl
      · exact .inl (List.mem_singleton.1 hpart)
      · exact .inr (List.mem_singleton.1 hpart)
    rcases hname with rfl | rfl <;>
      exact ⟨by decide, by decide, by decide, by decide, by decide⟩
  encodable := by decide

theorem manifest_twoFiles : twoFiles.manifest emptyDigest =
    [manifestEntry emptyDigest (ofString "a") [], manifestEntry emptyDigest (ofString "b") []] := by
  decide +kernel

/-- The record of `a` with the name `b` after it. -/
def fusedName : Str :=
  (manifestEntry emptyDigest (ofString "a") []).line ++ ofString "b"

/-- Both hand the same bytes to SHA-256. -/
theorem two_files_hash_like_one : ∃ fused : PosixTree, fused.tree = singleFile fusedName [] ∧
    Server.hashed emptyDigest fused.tree = Server.hashed emptyDigest twoFiles.tree ∧
    ¬ SameEntries emptyDigest fused twoFiles := by
  have hvalid : ValidPath
    (records [manifestEntry emptyDigest (ofString "a") []] ++ ofString "b") := by
    have hname : ∀ file ∈ contentFiles twoFiles.tree, ValidPath (join file.1) := fun _ h =>
      validPath_of_content h
    refine validPath_records ?_ (hname ([ofString "b"], []) (by decide +kernel))
    intro entry hentry
    obtain rfl := List.mem_singleton.1 hentry
    exact ⟨hname ([ofString "a"], []) (by decide +kernel), isDigest_emptyDigest []⟩
  have hfused : records [manifestEntry emptyDigest (ofString "a") []] ++ ofString "b" =
      fusedName := by simp [records, fusedName]
  rw [hfused] at hvalid
  refine ⟨.single fusedName [] hvalid, rfl, ?_, ?_⟩
  · rw [hashed_eq_iff, manifest_single, manifest_twoFiles]
    simp [records, ManifestEntry.line, manifestEntry, fusedName, ← List.append_assoc]
  · rw [sameEntries_iff, manifest_single, manifest_twoFiles]
    intro h
    have hmem := (h (manifestEntry emptyDigest fusedName [])).1 (List.mem_singleton_self _)
    have hlength : ∀ entry ∈ [manifestEntry emptyDigest (ofString "a") [],
        manifestEntry emptyDigest (ofString "b") []], entry.relativePath.length = 1 := by
      simp only [List.forall_mem_cons]
      exact ⟨rfl, rfl, by simp⟩
    have hone := hlength _ hmem
    have htwo : 1 < fusedName.length := by
      have ha : (manifestEntry emptyDigest (ofString "a") []).relativePath.length = 1 := rfl
      rw [fusedName, line_eq, List.length_append, List.length_append, List.length_cons, ha]
      omega
    have hname : fusedName.length = 1 := hone
    omega

end StylyMdm.Files
