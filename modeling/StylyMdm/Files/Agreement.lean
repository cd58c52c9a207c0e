import StylyMdm.Files.Destination

/-!
# Do server and client mean the same directory?

The server strips a destination before it drops the separators around it, the client trims what the
server sends. When the last component ends in white space, which a separator has protected on the
server, the client trims it away and takes another directory. A component of only white space, or
one that cannot be encoded, is refused by the client. In all other cases the client resolves the
destination to the components the server has named.

The two languages have different notions of white space, and the two sides take a path apart in
different ways. So each side first gets a specification by components (`canonicalDestination_spec`,
`clientDestination_eq_ok_iff`), and the comparison is one of lists.

The file system of the device is one on which the shared storage is where it should be and nothing
in it leads out of it (`SharedRoot`); `ReadAlike` is the exact condition on the destination. The
last section has two destinations, one on either side of it.
-/

namespace StylyMdm.Files

open Text

/-! ### What the server accepts -/

/-- The components of a destination as the server reads it. -/
def serverParts (value : Str) : List Str := properComponents (slashes (strip isSpace value))

/-- The components of a destination below the shared storage. -/
def destinationParts (value : Str) : List Str :=
  if [ofString "storage", ofString "emulated", ofString "0"] <+: serverParts value then
    (serverParts value).drop 3
  else (serverParts value).drop 1

/-- A component that names something: not empty, not `.` or `..`, without separators or NUL. -/
structure Proper (part : Str) : Prop where
  ne_nil : part ≠ []
  ne_dot : part ≠ dot
  ne_dotdot : part ≠ dotdot
  slash : slash ∉ part
  backslash : backslash ∉ part
  nul : 0 ∉ part

theorem backslash_not_mem_slashes (text : Str) : backslash ∉ slashes text := by
  intro hmem
  obtain ⟨c, -, hc⟩ := List.mem_map.mp hmem
  split at hc
  · exact absurd hc (by decide)
  · rename_i hne
    exact hne hc

theorem slashes_eq_self {text : Str} (h : backslash ∉ text) : slashes text = text := by
  refine (List.map_congr_left fun c hc => if_neg ?_).trans (List.map_id _)
  rintro rfl
  exact h hc

theorem isBelow_iff {base text : Str} :
    isBelow base text ↔ text = base ∨ ∃ rest, text = base ++ slash :: rest := by
  rw [isBelow, Bool.or_eq_true, decide_eq_true_iff, List.isPrefixOf_iff_prefix]
  refine or_congr_right ⟨?_, ?_⟩
  · rintro ⟨rest, rfl⟩
    exact ⟨rest, by simp⟩
  · rintro ⟨rest, rfl⟩
    exact ⟨rest, by simp⟩

/-- What lies below a directory has its components first. -/
theorem append_of_isBelow {base parts : List Str} (hbase : ∀ part ∈ base, part ≠ [] ∧ slash ∉ part)
    (hne : base ≠ []) (hparts : ∀ part ∈ parts, slash ∉ part)
    (h : isBelow (slash :: join base) (slash :: join parts)) :
    ∃ rest, parts = base ++ rest := by
  have hbase' : ∀ part ∈ base, slash ∉ part := fun part hpart => (hbase part hpart).2
  have hempty : join base ≠ [] := by
    obtain ⟨first, others, rfl⟩ := List.exists_cons_of_ne_nil hne
    intro hnil
    have hhead : (join (first :: others)).head? = first.head? :=
      head?_join (hbase first List.mem_cons_self).1
    rw [hnil] at hhead
    exact (hbase first List.mem_cons_self).1 (List.head?_eq_none_iff.mp hhead.symm)
  have hne' : parts ≠ [] := by
    rintro rfl
    rcases isBelow_iff.mp h with heq | ⟨rest, heq⟩
    · exact hempty (List.cons.inj heq).2.symm
    · have hnil := (List.cons.inj heq).2
      exact absurd hnil (by simp [join])
  rcases isBelow_iff.mp h with heq | ⟨rest, heq⟩
  · refine ⟨[], ?_⟩
    rw [List.append_nil, ← components_join hparts hne', (List.cons.inj heq).2,
      components_join hbase' hne]
  · exact ⟨components rest, append_of_join_append hbase' hne hparts hne' (List.cons.inj heq).2⟩

/-- Two slashes at the beginning are below nothing. -/
theorem not_isBelow_of_two_slashes {base : List Str}
    (hbase : ∀ part ∈ base, part ≠ [] ∧ slash ∉ part)
    (hne : base ≠ []) (text : Str) : ¬ isBelow (slash :: join base) (slash :: slash :: text) := by
  obtain ⟨first, others, rfl⟩ := List.exists_cons_of_ne_nil hne
  obtain ⟨hfirst, hslash⟩ := hbase first List.mem_cons_self
  obtain ⟨c, rest, rfl⟩ := List.exists_cons_of_ne_nil hfirst
  have hhead : (join ((c :: rest) :: others)).head? = some c := head?_join hfirst
  obtain ⟨tail, htail⟩ := List.head?_eq_some_iff.mp hhead
  have hc : c ≠ slash := fun heq => hslash (heq ▸ List.mem_cons_self)
  rw [isBelow_iff, htail]
  rintro (heq | ⟨rest', heq⟩)
  · exact hc (List.cons.inj (List.cons.inj heq).2).1.symm
  · exact hc (List.cons.inj (List.cons.inj heq).2).1.symm

/-- The rest of a path below a directory, without the separators. -/
theorem strip_drop_below {base rest : List Str} (hne : base ≠ [])
    (hrest : ∀ part ∈ rest, part ≠ [] ∧ slash ∉ part) :
    strip (· = slash) ((slash :: join (base ++ rest)).drop (slash :: join base).length) =
      join rest := by
  rcases rest with _ | ⟨part, rest⟩
  · rw [List.append_nil, List.drop_length]
    rfl
  · rw [join_append base _ hne (List.cons_ne_nil _ _), ← List.cons_append, List.drop_left,
      strip_cons_of_pos (by simp), strip_join hrest]

/-- A directory that is given by its components. -/
theorem sdcard_eq : sdcard = slash :: join [ofString "sdcard"] := by decide

theorem storageEmulated_eq : storageEmulated =
    slash :: join [ofString "storage", ofString "emulated", ofString "0"] := by decide

/-- What the server takes from a path below a base directory. -/
theorem serverParts_of_isBelow {value : Str} {base : List Str}
    (hbase : ∀ part ∈ base, part ≠ [] ∧ slash ∉ part) (hne : base ≠ [])
    (habs : (slashes (strip isSpace value)).head? = some slash)
    (hdots : dotdot ∉ components (slashes (strip isSpace value)))
    (h : isBelow (slash :: join base) (normpath (slashes (strip isSpace value)))) :
    ∃ rest, serverParts value = base ++ rest ∧
      strip (· = slash) ((normpath (slashes (strip isSpace value))).drop
        (slash :: join base).length) = join rest := by
  obtain ⟨text, htext⟩ := List.head?_eq_some_iff.mp habs
  obtain ⟨k, hk, hnorm⟩ := normpath_absolute htext hdots
  have hparts : ∀ part ∈ serverParts value, part ≠ [] ∧ slash ∉ part := by
    intro part hpart
    obtain ⟨hnil, -, hmem⟩ := properComponents_spec hpart
    exact ⟨hnil, slash_not_mem_of_mem_components hmem⟩
  rcases hk with rfl | rfl
  · change _ = slash :: join (serverParts value) at hnorm
    rw [hnorm] at h ⊢
    obtain ⟨rest, hrest⟩ := append_of_isBelow hbase hne (fun part hpart => (hparts part hpart).2) h
    refine ⟨rest, hrest, ?_⟩
    rw [hrest]
    exact strip_drop_below hne fun part hpart => hparts part (by simp [hrest, hpart])
  · change _ = slash :: slash :: join (serverParts value) at hnorm
    rw [hnorm] at h
    exact absurd h (not_isBelow_of_two_slashes hbase hne _)

/-- What `canonical_destination` returns: the components of the destination, below `/sdcard`. -/
theorem canonicalDestination_spec {value destination : Str}
    (h : canonicalDestination value = .ok destination) :
    destination = sdcard ++ slash :: join (destinationParts value) ∧
      destinationParts value ≠ [] ∧ (∀ part ∈ destinationParts value, Proper part) ∧
      ¬ isProtected ((destinationParts value).headD []) := by
  simp only [canonicalDestination] at h
  split_ifs at h with hempty hnul habs hdots
  rw [not_not] at habs
  have hproper : ∀ part ∈ serverParts value, Proper part := by
    intro part hpart
    obtain ⟨hnil, hdot, hmem⟩ := properComponents_spec hpart
    refine ⟨hnil, hdot, ?_, slash_not_mem_of_mem_components hmem, ?_, ?_⟩
    · rintro rfl
      exact hdots hmem
    · intro hback
      exact backslash_not_mem_slashes _ (subset_of_mem_components hmem hback)
    · intro hzero
      exact hnul (subset_of_mem_components hmem hzero)
  split at h
  · exact absurd h (by simp)
  · rename_i root hfind
    -- either root gives the components it is made of, and the rest is the destination
    have hrest : ∃ rest, destinationParts value = rest ∧ rest <:+ serverParts value ∧
        strip (· = slash) ((normpath (slashes (strip isSpace value))).drop root.length) =
          join rest := by
      have hbelow := List.find?_some hfind
      have hmem := List.mem_of_find?_eq_some hfind
      rcases List.mem_cons.mp hmem with rfl | hmem
      · rw [sdcard_eq] at hbelow ⊢
        obtain ⟨rest, hparts, hstrip⟩ :=
          serverParts_of_isBelow (by decide) (by decide) habs hdots hbelow
        refine ⟨rest, ?_, hparts ▸ List.suffix_append _ _, hstrip⟩
        rw [destinationParts, hparts, if_neg]
        · rfl
        · rw [List.singleton_append, List.cons_prefix_cons]
          exact fun hpre => absurd hpre.1 (by decide)
      · rw [List.mem_singleton.mp hmem, storageEmulated_eq] at hbelow ⊢
        obtain ⟨rest, hparts, hstrip⟩ :=
          serverParts_of_isBelow (by decide) (by decide) habs hdots hbelow
        refine ⟨rest, ?_, hparts ▸ List.suffix_append _ _, hstrip⟩
        rw [destinationParts, hparts, if_pos (List.prefix_append _ _)]
        rfl
    obtain ⟨rest, rfl, hsuffix, hstrip⟩ := hrest
    rw [hstrip] at h
    have hall : ∀ part ∈ destinationParts value, Proper part :=
      fun part hpart => hproper part (hsuffix.subset hpart)
    have hne : destinationParts value ≠ [] := by
      intro hnil
      rw [hnil] at h
      exact absurd h (by simp [join])
    have hcomp : components (join (destinationParts value)) = destinationParts value :=
      components_join (fun part hpart => (hall part hpart).slash) hne
    split_ifs at h with hjoin hprotected
    rw [hcomp] at hprotected
    exact ⟨(Except.ok.inj h).symm, hne, hall, hprotected⟩

/-! ### What the client accepts -/

/-- A component that a directory of the device can have. -/
def Named (part : Str) : Prop :=
  part ≠ [] ∧ part ≠ dot ∧ part ≠ dotdot ∧ slash ∉ part ∧ validName part = true

/-- The shared storage has no links below its root: what lies there is its own canonical file. -/
structure SharedRoot (fs : FileSystem) (rootDirectory root : List Str) : Prop where
  canonical : fs.canonicalFile rootDirectory = some root
  names : ∀ part ∈ root, Named part
  links : ∀ parts, parts ≠ [] → fs.isSymbolicLink (root ++ parts) = false
  resolves : ∀ parts, (∀ part ∈ parts, Named part) →
    fs.canonicalFile (root ++ parts) = some (root ++ parts)

section Client

variable {fs : FileSystem} {rootDirectory root parts : List Str} {destPath : Str}

/-- The loop over the components ends when all of them are names. -/
theorem walk_eq_ok_iff (hroot : SharedRoot fs rootDirectory root) {below : List Str}
    (hbelow : ∀ part ∈ below, validName part = true) (parts target : List Str) :
    walk fs (root ++ below) parts = .ok target ↔
      (∀ part ∈ parts, validName part = true) ∧ target = root ++ below ++ parts := by
  induction parts generalizing below with
  | nil =>
    rw [walk, Except.ok.injEq, List.append_nil]
    constructor
    · intro h
      exact ⟨fun part hpart => absurd hpart List.not_mem_nil, h.symm⟩
    · exact fun h => h.2.symm
  | cons part parts ih =>
    have hlink : fs.isSymbolicLink (root ++ below ++ [part]) = false := by
      rw [List.append_assoc]
      exact hroot.links _ (by simp)
    have hnames : (root ++ below ++ [part]).all validName = validName part := by
      rw [Bool.eq_iff_iff, List.all_eq_true]
      constructor
      · exact fun h => h part (by simp)
      · intro hpart part' hpart'
        rw [List.append_assoc, List.mem_append, List.mem_append, List.mem_singleton] at hpart'
        rcases hpart' with hmem | hmem | rfl
        · exact (hroot.names part' hmem).2.2.2.2
        · exact hbelow part' hmem
        · exact hpart
    rw [walk, hnames, hlink, if_neg Bool.false_ne_true]
    by_cases hpart : validName part = true
    · have hbelow' : ∀ part' ∈ below ++ [part], validName part' = true := by
        intro part' hpart'
        rcases List.mem_append.mp hpart' with hmem | hmem
        · exact hbelow part' hmem
        · exact List.mem_singleton.mp hmem ▸ hpart
      have hih := ih hbelow'
      rw [hpart, Bool.not_true, if_neg Bool.false_ne_true, List.append_assoc, hih,
        List.forall_mem_cons]
      simp [hpart]
    · rw [Bool.not_eq_true] at hpart
      simp [hpart]

/-- What `relativeParts` accepts. -/
theorem relativeParts_spec {normalized : Str} (h : relativeParts root normalized = .ok parts) :
    ∃ base, (aliases root).find? (fun base => isBelow base normalized) = some base ∧
      parts = components (strip (· = slash) (normalized.drop base.length)) ∧
      (∀ part ∈ parts, isBlank part = false ∧ part ≠ dot ∧ part ≠ dotdot ∧ slash ∉ part) ∧
      ¬ isProtected (parts.headD []) := by
  rw [relativeParts] at h
  split at h
  · exact absurd h (by simp)
  · rename_i base hfind
    simp only at h
    split_ifs at h with hblank hunsafe hprotected
    rw [Except.ok.injEq] at h
    refine ⟨base, hfind, h.symm, ?_, ?_⟩
    · intro part hpart
      rw [← h] at hpart
      have hsafe : ¬ (isBlank part || part = dot || part = dotdot) := by
        intro hbad
        exact hunsafe (List.any_eq_true.mpr ⟨part, hpart, hbad⟩)
      simp only [Bool.or_eq_true, decide_eq_true_iff, not_or, Bool.not_eq_true] at hsafe
      exact ⟨hsafe.1.1, hsafe.1.2, hsafe.2, slash_not_mem_of_mem_components hpart⟩
    · rwa [← h]

/-- A directory below the root is one of its components more. -/
theorem isPrefixOf_filePath (hroot : root ≠ []) (hparts : parts ≠ []) :
    (filePath root ++ [slash]).isPrefixOf (filePath (root ++ parts)) = true := by
  obtain ⟨first, others, rfl⟩ := List.exists_cons_of_ne_nil hroot
  rw [List.isPrefixOf_iff_prefix]
  refine ⟨join parts, ?_⟩
  change slash :: join (first :: others) ++ [slash] ++ join parts =
    slash :: join (first :: others ++ parts)
  rw [join_append _ _ (List.cons_ne_nil _ _) hparts]
  simp

/-- Below `/` the separator would stand twice, and no path begins so. -/
theorem not_isPrefixOf_filePath_root (hne : parts ≠ [])
    (hparts : ∀ part ∈ parts, part ≠ [] ∧ slash ∉ part) :
    ¬ (filePath [] ++ [slash]).isPrefixOf (filePath parts) := by
  obtain ⟨first, others, rfl⟩ := List.exists_cons_of_ne_nil hne
  obtain ⟨hfirst, hslash⟩ := hparts first List.mem_cons_self
  rw [List.isPrefixOf_iff_prefix]
  rintro ⟨rest, hrest⟩
  have hhead : (join (first :: others)).head? = first.head? := head?_join hfirst
  have heq : join (first :: others) = slash :: rest := (List.cons.inj hrest).2.symm
  rw [heq] at hhead
  exact hslash (List.mem_of_mem_head? hhead.symm)

/-- What the client resolves a destination to, as far as the text decides. -/
theorem validateDestinationAgainstRoot_eq_ok_iff (hroot : SharedRoot fs rootDirectory root)
    {target : List Str} :
    validateDestinationAgainstRoot fs rootDirectory destPath = .ok target ↔
      (slashes (strip isWhitespace destPath)).head? = some slash ∧ root ≠ [] ∧
        ∃ parts, relativeParts root (slashes (strip isWhitespace destPath)) = .ok parts ∧
          (∀ part ∈ parts, validName part = true) ∧ target = root ++ parts := by
  simp only [validateDestinationAgainstRoot, hroot.canonical]
  by_cases habs : (slashes (strip isWhitespace destPath)).head? = some slash
  · have hblank : isBlank (slashes (strip isWhitespace destPath)) = false := by
      obtain ⟨rest, hrest⟩ := List.head?_eq_some_iff.mp habs
      rw [hrest]
      rfl
    rw [hblank, if_neg (by simp [habs])]
    rcases hrel : relativeParts root (slashes (strip isWhitespace destPath)) with refusal | parts
    · simp only [bind, Except.bind]
      simp
    · obtain ⟨base, -, hparts, hsafe, -⟩ := relativeParts_spec hrel
      have hne : parts ≠ [] := hparts ▸ components_ne_nil _
      have hwalk : ∀ lexical, walk fs root parts = .ok lexical ↔
          (∀ part ∈ parts, validName part = true) ∧ lexical = root ++ parts := by
        intro lexical
        have hwalk := walk_eq_ok_iff hroot (List.forall_mem_nil fun part => validName part = true)
          parts lexical
        rwa [List.append_nil] at hwalk
      simp only [bind, Except.bind]
      rcases hw : walk fs root parts with refusal | lexical
      · simp only [reduceCtorEq, false_iff, not_and, not_exists]
        intro _ _ parts' hparts' hnames htarget
        rw [Except.ok.injEq] at hparts'
        subst hparts'
        exact absurd (hw.symm.trans ((hwalk _).mpr ⟨hnames, rfl⟩)) (by simp)
      · obtain ⟨hnames, rfl⟩ := (hwalk _).mp hw
        have hnamed : ∀ part ∈ parts, Named part := by
          intro part hpart
          obtain ⟨hnonblank, hdot, hdotdot, hslash⟩ := hsafe part hpart
          refine ⟨?_, hdot, hdotdot, hslash, hnames part hpart⟩
          rintro rfl
          exact absurd hnonblank (by decide)
        simp only [hroot.resolves parts hnamed]
        by_cases hrootNil : root = []
        · subst hrootNil
          have hpre := not_isPrefixOf_filePath_root hne fun part hpart =>
            ⟨(hnamed part hpart).1, (hnamed part hpart).2.2.2.1⟩
          rw [Bool.not_eq_true] at hpre
          rw [List.nil_append, hpre]
          simp
        · have hpre := isPrefixOf_filePath hrootNil hne
          have hproper : filePath (root ++ parts) ≠ filePath root := by
            intro heq
            rw [heq, List.isPrefixOf_iff_prefix] at hpre
            have hlen := hpre.length_le
            rw [List.length_append, List.length_singleton] at hlen
            omega
          rw [hpre, if_neg (by simp [hproper]), Except.ok.injEq]
          constructor
          · intro h
            exact ⟨habs, hrootNil, parts, rfl, hnames, h.symm⟩
          · rintro ⟨-, -, parts', hparts', -, htarget⟩
            rw [Except.ok.injEq] at hparts'
            rw [hparts', htarget]
  · rw [if_pos (by simp [habs])]
    simp [habs]

/-- A path below another one, from the components. -/
theorem isBelow_append (base rest : List Str) (hne : base ≠ []) :
    isBelow (slash :: join base) (slash :: join (base ++ rest)) := by
  rw [isBelow_iff]
  rcases rest with _ | ⟨part, rest⟩
  · exact .inl (by rw [List.append_nil])
  · exact .inr ⟨join (part :: rest), by rw [join_append base _ hne (List.cons_ne_nil _ _)]; rfl⟩

/-- The alias the client takes is the longest one that fits. -/
theorem find_aliases_spec {normalized base : Str}
    (h : (aliases root).find? (fun base => isBelow base normalized) = some base) :
    base ∈ [sdcard, storageEmulated, filePath root] ∧ isBelow base normalized ∧
      ∀ base' ∈ [sdcard, storageEmulated, filePath root], isBelow base' normalized →
        base'.length ≤ base.length := by
  have hmem : ∀ base, base ∈ aliases root ↔ base ∈ [sdcard, storageEmulated, filePath root] := by
    intro base
    rw [aliases, List.mem_mergeSort, List.mem_eraseDups]
  have hsorted : (aliases root).Pairwise fun a b => decide (b.length ≤ a.length) = true := by
    refine List.pairwise_mergeSort ?_ ?_ _
    · intro a b c hab hbc
      rw [decide_eq_true_iff] at *
      omega
    · intro a b
      rw [Bool.or_eq_true, decide_eq_true_iff, decide_eq_true_iff]
      omega
  obtain ⟨hbelow, before, after, hsplit, hbefore⟩ := List.find?_eq_some_iff_append.mp h
  refine ⟨(hmem base).mp (by rw [hsplit]; simp), hbelow, ?_⟩
  intro base' hbase' hbelow'
  have hin : base' ∈ before ++ base :: after := hsplit ▸ (hmem base').mpr hbase'
  rw [hsplit, List.pairwise_append] at hsorted
  rcases List.mem_append.mp hin with hin | hin
  · have hnot := hbefore base' hin
    rw [hbelow'] at hnot
    exact absurd hnot (by decide)
  · rcases List.mem_cons.mp hin with rfl | hin
    · exact le_rfl
    · exact of_decide_eq_true ((List.pairwise_cons.mp hsorted.2.1).1 base' hin)

end Client

/-! ### Where they agree -/

/-- The components that the client reads as the server has written them: none of them blank or
beyond UTF-8, no white space at the end, and the shared storage neither `/` nor, under the name of
`/sdcard`, a directory that the destination itself lies in. -/
structure ReadAlike (root parts : List Str) : Prop where
  nonblank : ∀ part ∈ parts, isBlank part = false
  encodable : ∀ part ∈ parts, encodable part = true
  last : ∀ part ∈ parts.getLast?, ∀ c ∈ part.getLast?, isWhitespace c = false
  root_ne : root ≠ []
  root_sdcard : ∀ rest, root = ofString "sdcard" :: rest → rest <+: parts → rest = []

section Alike

variable {fs : FileSystem} {rootDirectory root parts : List Str}

/-- The components of a destination of the server have no separators. -/
theorem slash_not_mem_destination (hparts : ∀ part ∈ parts, Proper part) :
    ∀ part ∈ ofString "sdcard" :: parts, slash ∉ part := by
  intro part hpart
  rcases List.mem_cons.mp hpart with rfl | hpart
  · decide
  · exact (hparts part hpart).slash

/-- The destination that the server writes for these components. -/
theorem destination_eq (hne : parts ≠ []) :
    sdcard ++ slash :: join parts = slash :: join (ofString "sdcard" :: parts) := by
  have hjoin := join_append [ofString "sdcard"] parts (by simp) hne
  rw [List.singleton_append] at hjoin
  rw [hjoin, sdcard_eq]
  rfl

/-- The last character of a destination. -/
theorem getLast?_destination (hne : parts ≠ []) (hparts : ∀ part ∈ parts, part ≠ []) {part : Str}
    (hlast : parts.getLast? = some part) :
    (sdcard ++ slash :: join parts).getLast? = part.getLast? := by
  obtain ⟨init, rfl⟩ := List.getLast?_eq_some_iff.mp hlast
  have hpart : part ≠ [] := hparts part (by simp)
  have hhead : join (init ++ [part]) ≠ [] := by
    intro hnil
    have hget : (join (init ++ [part])).getLast? = part.getLast? := getLast?_join hpart
    rw [hnil] at hget
    exact hpart (List.getLast?_eq_none_iff.mp hget.symm)
  rw [List.getLast?_append_of_ne_nil _ (List.cons_ne_nil _ _), List.getLast?_cons_of_ne_nil hhead,
    getLast?_join hpart]

/-- What the client resolves an absolute path without backslashes to. -/
theorem clientDestination_eq_ok_iff (hroot : SharedRoot fs rootDirectory root) {path : Str}
    (habs : path.head? = some slash) (hback : backslash ∉ path) {target : List Str} :
    clientDestination fs rootDirectory path = .ok target ↔
      root ≠ [] ∧ ∃ parts, relativeParts root (strip isWhitespace path) = .ok parts ∧
        (∀ part ∈ parts, validName part = true) ∧ target = root ++ parts := by
  obtain ⟨rest, rfl⟩ := List.head?_eq_some_iff.mp habs
  obtain ⟨rest', htrim, -⟩ : ∃ rest', strip isWhitespace (slash :: rest) = slash :: rest' ∧
      rest' <+: rest := strip_cons_of_neg (by decide)
  have hblank : isBlank (strip isWhitespace (slash :: rest)) = false := by
    rw [htrim]
    rfl
  have hslashes : slashes (strip isWhitespace (slash :: rest)) =
      strip isWhitespace (slash :: rest) :=
    slashes_eq_self fun hmem => hback ((strip_sublist _ _).subset hmem)
  have hparse : clientDestination fs rootDirectory (slash :: rest) =
      validateDestinationAgainstRoot fs rootDirectory (strip isWhitespace (slash :: rest)) := by
    rw [clientDestination, parseDestPath]
    simp only [hblank, Bool.false_eq_true, if_false, bind, Except.bind]
  rw [hparse, validateDestinationAgainstRoot_eq_ok_iff hroot, strip_strip, hslashes]
  have hhead : (strip isWhitespace (slash :: rest)).head? = some slash := by rw [htrim]; rfl
  rw [hhead]
  simp

/-- The base the client takes for a destination of the server, when the shared storage does not
pass for a part of it. -/
theorem find_aliases_destination (hne : parts ≠ []) (hparts : ∀ part ∈ parts, Proper part)
    (hnames : ∀ part ∈ root, Named part) (halike : ReadAlike root parts) :
    (aliases root).find? (fun base => isBelow base (sdcard ++ slash :: join parts)) =
      some sdcard := by
  have hslash := slash_not_mem_destination hparts
  have hsdcard : isBelow sdcard (sdcard ++ slash :: join parts) :=
    isBelow_iff.mpr (.inr ⟨_, rfl⟩)
  have hsome : ((aliases root).find? fun base =>
      isBelow base (sdcard ++ slash :: join parts)).isSome := by
    rw [List.find?_isSome]
    refine ⟨sdcard, ?_, hsdcard⟩
    rw [aliases, List.mem_mergeSort, List.mem_eraseDups]
    exact List.mem_cons_self
  obtain ⟨base, hfind⟩ := Option.isSome_iff_exists.mp hsome
  obtain ⟨hmem, hbelow, -⟩ := find_aliases_spec hfind
  rw [hfind, Option.some_inj]
  rw [destination_eq hne] at hbelow
  simp only [List.mem_cons, List.not_mem_nil, or_false] at hmem
  rcases hmem with rfl | rfl | rfl
  · rfl
  · rw [storageEmulated_eq] at hbelow
    obtain ⟨rest, hrest⟩ := append_of_isBelow (by decide) (by decide) hslash hbelow
    exact absurd (List.cons.inj hrest).1 (by decide)
  · -- a root that contains the destination is `/sdcard` itself
    obtain ⟨first, others, hcons⟩ := List.exists_cons_of_ne_nil halike.root_ne
    have hpath : filePath root = slash :: join root := by
      rw [hcons]
      rfl
    rw [hpath] at hbelow ⊢
    obtain ⟨rest, hrest⟩ := append_of_isBelow
      (fun part hpart => ⟨(hnames part hpart).1, (hnames part hpart).2.2.2.1⟩) halike.root_ne
      hslash hbelow
    rw [hcons, List.cons_append] at hrest
    obtain ⟨hfirst, hothers⟩ := List.cons.inj hrest
    have hnil := halike.root_sdcard others (by rw [hcons, hfirst])
      (hothers ▸ List.prefix_append _ _)
    rw [hcons, hnil, ← hfirst, sdcard_eq]

/-- The client reads the components of the server. -/
theorem relativeParts_destination (hne : parts ≠ []) (hparts : ∀ part ∈ parts, Proper part)
    (hprotected : ¬ isProtected (parts.headD [])) (hnames : ∀ part ∈ root, Named part)
    (halike : ReadAlike root parts) :
    relativeParts root (sdcard ++ slash :: join parts) = .ok parts := by
  have hslash : ∀ part ∈ parts, part ≠ [] ∧ slash ∉ part :=
    fun part hpart => ⟨(hparts part hpart).ne_nil, (hparts part hpart).slash⟩
  have hstrip : strip (· = slash) ((sdcard ++ slash :: join parts).drop sdcard.length) =
      join parts := by
    rw [List.drop_left, strip_cons_of_pos (by simp), strip_join hslash]
  have hcomp : components (join parts) = parts :=
    components_join (fun part hpart => (hslash part hpart).2) hne
  have hblank : isBlank (join parts) = false := by
    obtain ⟨first, others, rfl⟩ := List.exists_cons_of_ne_nil hne
    have hfirst := halike.nonblank first List.mem_cons_self
    rw [isBlank, List.all_eq_false] at hfirst ⊢
    obtain ⟨c, hc, hwhite⟩ := hfirst
    exact ⟨c, subset_join List.mem_cons_self hc, hwhite⟩
  have hsafe : ¬ parts.any fun part => isBlank part || part = dot || part = dotdot := by
    rw [List.any_eq_true]
    rintro ⟨part, hpart, hbad⟩
    rw [halike.nonblank part hpart, Bool.false_or, Bool.or_eq_true, decide_eq_true_iff,
      decide_eq_true_iff] at hbad
    rcases hbad with hbad | hbad
    · exact (hparts part hpart).ne_dot hbad
    · exact (hparts part hpart).ne_dotdot hbad
  rw [relativeParts, find_aliases_destination hne hparts hnames halike]
  simp only [hstrip, hcomp]
  rw [if_neg (by simp [hblank]), if_neg hsafe, if_neg hprotected]

/-- A shared storage that a destination of the server begins with is `/sdcard` or below it. -/
theorem length_sdcard_le {rest : Str} (hne : parts ≠ []) (hparts : ∀ part ∈ parts, Proper part)
    (hnames : ∀ part ∈ root, Named part) (hroot : root ≠ [])
    (h : filePath root ++ slash :: rest <+: sdcard ++ slash :: join parts) :
    sdcard.length ≤ (filePath root).length := by
  obtain ⟨first, others, rfl⟩ := List.exists_cons_of_ne_nil hroot
  have hslash := slash_not_mem_destination hparts
  obtain ⟨more, hmore⟩ := h
  have hbelow : isBelow (slash :: join (first :: others))
      (slash :: join (ofString "sdcard" :: parts)) := by
    rw [← destination_eq hne, isBelow_iff, ← hmore]
    exact .inr ⟨rest ++ more, by rw [List.append_assoc]; rfl⟩
  obtain ⟨rest', hrest'⟩ := append_of_isBelow
    (fun part hpart => ⟨(hnames part hpart).1, (hnames part hpart).2.2.2.1⟩) hroot hslash hbelow
  rw [List.cons_append] at hrest'
  have hsub : ofString "sdcard" <+: join (ofString "sdcard" :: others) := by
    rcases others with _ | ⟨second, others⟩
    · exact List.prefix_rfl
    · rw [join_cons_cons]
      exact List.prefix_append _ _
  have hlen := hsub.length_le
  have hsdcard : sdcard.length = (ofString "sdcard").length + 1 := by decide
  rw [← (List.cons.inj hrest').1]
  change _ ≤ (slash :: join (ofString "sdcard" :: others)).length
  rw [List.length_cons]
  omega

/-- When the client reads the components of the server, nothing was trimmed and the base was no
longer than `/sdcard`. -/
theorem untrimmed_of_relativeParts {trimmed : Str} (hne : parts ≠ [])
    (hparts : ∀ part ∈ parts, Proper part) (hnames : ∀ part ∈ root, Named part) (hroot : root ≠ [])
    (htrimmed : trimmed <+: sdcard ++ slash :: join parts)
    (h : relativeParts root trimmed = .ok parts) :
    trimmed = sdcard ++ slash :: join parts ∧
      ∀ base ∈ [sdcard, storageEmulated, filePath root], isBelow base trimmed →
        base.length ≤ sdcard.length := by
  obtain ⟨base, hfind, hcomp, hsafe, -⟩ := relativeParts_spec h
  obtain ⟨hmem, hbelow, hlongest⟩ := find_aliases_spec hfind
  have hjoin : join parts = strip (· = slash) (trimmed.drop base.length) := by
    rw [hcomp, join_components]
  obtain ⟨rest, rfl⟩ : ∃ rest, trimmed = base ++ slash :: rest := by
    rcases isBelow_iff.mp hbelow with rfl | hrest
    · rw [List.drop_length] at hcomp
      have hnil : [] ∈ parts := by
        rw [hcomp]
        exact List.mem_cons_self
      exact absurd rfl (hparts [] hnil).ne_nil
    · exact hrest
  -- the separator after the base is not a part of the components
  have hlen : (join parts).length ≤ rest.length := by
    rw [List.drop_left, strip_cons_of_pos (by simp)] at hjoin
    rw [hjoin]
    exact (strip_sublist (· = slash) rest).length_le
  have hle := htrimmed.length_le
  simp only [List.length_append, List.length_cons] at hle
  have hbase : sdcard.length ≤ base.length := by
    simp only [List.mem_cons, List.not_mem_nil, or_false] at hmem
    rcases hmem with rfl | rfl | rfl
    · exact le_rfl
    · decide
    · exact length_sdcard_le hne hparts hnames hroot htrimmed
  refine ⟨htrimmed.eq_of_length ?_, ?_⟩
  · simp only [List.length_append, List.length_cons]
    omega
  · intro base' hbase' hbelow'
    have := hlongest base' hbase' hbelow'
    omega

/-- The client reads the components that the server has written exactly when they are read alike. -/
theorem relativeParts_trimmed_iff (hne : parts ≠ []) (hparts : ∀ part ∈ parts, Proper part)
    (hprotected : ¬ isProtected (parts.headD [])) (hnames : ∀ part ∈ root, Named part) :
    (root ≠ [] ∧ relativeParts root (strip isWhitespace (sdcard ++ slash :: join parts)) =
        .ok parts ∧ ∀ part ∈ parts, validName part = true) ↔ ReadAlike root parts := by
  have hnil : ∀ part ∈ parts, part ≠ [] := fun part hpart => (hparts part hpart).ne_nil
  constructor
  · rintro ⟨hroot, hrel, hvalid⟩
    have hpre : strip isWhitespace (sdcard ++ slash :: join parts) <+:
        sdcard ++ slash :: join parts := by
      rw [destination_eq hne]
      obtain ⟨rest, hrest, hrest'⟩ := strip_cons_of_neg (p := isWhitespace) (c := slash)
        (l := join (ofString "sdcard" :: parts)) (by decide)
      rw [hrest]
      exact (List.prefix_cons_inj slash).mpr hrest'
    obtain ⟨htrimmed, hlongest⟩ := untrimmed_of_relativeParts hne hparts hnames hroot hpre hrel
    obtain ⟨base, -, -, hsafe, -⟩ := relativeParts_spec hrel
    refine ⟨fun part hpart => (hsafe part hpart).1, ?_, ?_, hroot, ?_⟩
    · intro part hpart
      have hpart := hvalid part hpart
      rw [validName, Bool.and_eq_true] at hpart
      exact hpart.2
    · intro part hpart c hc
      rw [← getLast?_destination hne hnil hpart, ← htrimmed] at hc
      exact Bool.not_eq_true _ ▸ not_of_getLast?_strip hc
    · rintro rest rfl hrest
      obtain ⟨more, rfl⟩ := hrest
      have hbelow : isBelow (filePath (ofString "sdcard" :: rest))
          (strip isWhitespace (sdcard ++ slash :: join (rest ++ more))) := by
        rw [htrimmed, destination_eq hne]
        exact isBelow_append (ofString "sdcard" :: rest) more (by simp)
      have hle := hlongest _ (by simp) hbelow
      by_contra hrest
      have hjoin := join_append [ofString "sdcard"] rest (by simp) hrest
      have hlen := congrArg List.length hjoin
      have hsdcard : sdcard.length = (join [ofString "sdcard"]).length + 1 := by decide
      rw [List.singleton_append, List.length_append, List.length_cons] at hlen
      change (slash :: join (ofString "sdcard" :: rest)).length ≤ _ at hle
      rw [List.length_cons] at hle
      omega
  · intro halike
    have htrimmed : strip isWhitespace (sdcard ++ slash :: join parts) =
        sdcard ++ slash :: join parts := by
      refine strip_eq_self ?_ ?_
      · intro c hc
        rw [destination_eq hne] at hc
        rw [← Option.some.inj hc]
        decide
      · obtain ⟨part, hpart⟩ : ∃ part, parts.getLast? = some part :=
          ⟨_, List.getLast?_eq_some_getLast hne⟩
        intro c hc
        rw [getLast?_destination hne hnil hpart] at hc
        rw [halike.last part hpart c hc]
        exact Bool.false_ne_true
    refine ⟨halike.root_ne, ?_, ?_⟩
    · rw [htrimmed]
      exact relativeParts_destination hne hparts hprotected hnames halike
    · intro part hpart
      rw [validName, Bool.and_eq_true]
      exact ⟨by simpa using (hparts part hpart).nul, halike.encodable part hpart⟩

/-- Server and client mean the same directory exactly when the components are read alike; and
whatever the client accepts lies below the root, outside of the protected directories. -/
theorem destination_agrees_iff {value destination : Str} (hroot : SharedRoot fs rootDirectory root)
    (h : canonicalDestination value = .ok destination) :
    (clientDestination fs rootDirectory destination =
        .ok (root ++ components (destination.drop (sdcard.length + 1))) ↔
      ReadAlike root (destinationParts value)) ∧
    ∀ target, clientDestination fs rootDirectory destination = .ok target →
      ∃ first rest, target = root ++ first :: rest ∧ ¬ isProtected first := by
  obtain ⟨rfl, hne, hparts, hprotected⟩ := canonicalDestination_spec h
  have habs : (sdcard ++ slash :: join (destinationParts value)).head? = some slash := by
    rw [destination_eq hne]
    rfl
  have hback : backslash ∉ sdcard ++ slash :: join (destinationParts value) := by
    rw [destination_eq hne, List.mem_cons, not_or]
    refine ⟨by decide, fun hmem => ?_⟩
    rcases mem_join hmem with hslash | ⟨part, hpart, hmem⟩
    · exact absurd hslash (by decide)
    · rcases List.mem_cons.mp hpart with rfl | hpart
      · exact absurd hmem (by decide)
      · exact (hparts part hpart).backslash hmem
  have hdrop : (sdcard ++ slash :: join (destinationParts value)).drop (sdcard.length + 1) =
      join (destinationParts value) := by
    rw [← List.drop_drop, List.drop_left]
    rfl
  have hcomp : components (join (destinationParts value)) = destinationParts value :=
    components_join (fun part hpart => (hparts part hpart).slash) hne
  rw [hdrop, hcomp]
  constructor
  · rw [clientDestination_eq_ok_iff hroot habs hback,
      ← relativeParts_trimmed_iff hne hparts hprotected hroot.names]
    refine and_congr_right fun _ => ⟨?_, ?_⟩
    · rintro ⟨parts, hrel, hvalid, htarget⟩
      obtain rfl := List.append_cancel_left htarget
      exact ⟨hrel, hvalid⟩
    · rintro ⟨hrel, hvalid⟩
      exact ⟨_, hrel, hvalid, rfl⟩
  · intro target htarget
    obtain ⟨-, parts, hrel, -, rfl⟩ := (clientDestination_eq_ok_iff hroot habs hback).mp htarget
    obtain ⟨base, -, hparts', -, hfirst⟩ := relativeParts_spec hrel
    obtain ⟨first, rest, rfl⟩ := List.exists_cons_of_ne_nil (hparts' ▸ components_ne_nil _)
    exact ⟨first, rest, rfl, hfirst⟩

end Alike

/-! ### Two destinations -/

/-- A file system without links, on which every path is canonical. -/
def linkFree : FileSystem where
  canonicalFile := some
  isSymbolicLink _ := false

/-- The shared storage of a device. -/
def sharedStorage : List Str := [ofString "storage", ofString "emulated", ofString "0"]

theorem sharedRoot_linkFree : SharedRoot linkFree sharedStorage sharedStorage where
  canonical := rfl
  names := by unfold Named; decide
  links _ _ := rfl
  resolves _ _ := rfl

/-- Nothing below this shared storage is mistaken for `/sdcard`. -/
theorem readAlike_sharedStorage (init : List Str) (part : Str)
    (hblank : ∀ part' ∈ init ++ [part], isBlank part' = false)
    (hencodable : ∀ part' ∈ init ++ [part], encodable part' = true)
    (hlast : (part.getLast?.all fun c => !isWhitespace c) = true) :
    ReadAlike sharedStorage (init ++ [part]) where
  nonblank := hblank
  encodable := hencodable
  last := by
    intro part' hpart' c hc
    rw [List.getLast?_append_of_ne_nil _ (List.cons_ne_nil _ _), List.getLast?_singleton,
      Option.mem_def, Option.some_inj] at hpart'
    rw [← hpart', Option.mem_def] at hc
    rw [hc] at hlast
    simpa using hlast
  root_ne := by decide
  root_sdcard := by
    intro rest hroot
    exact absurd (List.cons.inj hroot).1 (by decide)

theorem destination_agrees_iff_apps :
    canonicalDestination (ofString " /storage/emulated/0//apps\\my config/ ") =
        .ok (ofString "/sdcard/apps/my config") ∧
      clientDestination linkFree sharedStorage (ofString "/sdcard/apps/my config") =
        .ok (sharedStorage ++ [ofString "apps", ofString "my config"]) := by
  have hserver : canonicalDestination (ofString " /storage/emulated/0//apps\\my config/ ") =
      .ok (ofString "/sdcard/apps/my config") := by decide +kernel
  have hparts : destinationParts (ofString " /storage/emulated/0//apps\\my config/ ") =
      [ofString "apps", ofString "my config"] := by decide +kernel
  have halike : ReadAlike sharedStorage [ofString "apps", ofString "my config"] :=
    readAlike_sharedStorage [ofString "apps"] (ofString "my config") (by decide) (by decide)
      (by decide)
  have hagree := (destination_agrees_iff sharedRoot_linkFree hserver).1.mpr (hparts ▸ halike)
  refine ⟨hserver, hagree.trans ?_⟩
  decide +kernel

/-- White space that a separator has kept from the server's stripping is trimmed by the client,
which then takes another directory. -/
theorem destination_trimmed_by_client :
    SharedRoot linkFree sharedStorage sharedStorage ∧
    canonicalDestination (ofString "/sdcard/apps /") = .ok (ofString "/sdcard/apps ") ∧
    components ((ofString "/sdcard/apps ").drop (sdcard.length + 1)) = [ofString "apps "] ∧
    clientDestination linkFree sharedStorage (ofString "/sdcard/apps ") =
      .ok (sharedStorage ++ [ofString "apps"]) := by
  refine ⟨sharedRoot_linkFree, by decide +kernel, by decide +kernel, ?_⟩
  rw [clientDestination_eq_ok_iff sharedRoot_linkFree (by decide) (by decide)]
  have htrimmed : strip isWhitespace (ofString "/sdcard/apps ") =
      sdcard ++ slash :: join [ofString "apps"] := by decide +kernel
  have halike : ReadAlike sharedStorage [ofString "apps"] :=
    readAlike_sharedStorage [] (ofString "apps") (by decide) (by decide) (by decide)
  have hproper : ∀ part ∈ [ofString "apps"], Proper part := by
    intro part hpart
    rw [List.mem_singleton.mp hpart]
    exact ⟨by decide, by decide, by decide, by decide, by decide, by decide⟩
  refine ⟨by decide, [ofString "apps"], ?_, by decide, rfl⟩
  rw [htrimmed]
  exact relativeParts_destination (by decide) hproper (by decide) sharedRoot_linkFree.names halike

end StylyMdm.Files
