import StylyMdm.Files.Agreement

/-!
# The canonical spelling of a destination

Which texts `canonical_destination` accepts, read off their components, and when its result is a
text that it leaves alone: when the last component does not end in white space. Spellings with the
same components have the same result; the exception are two separators at the beginning, which
`normpath` keeps.

* `canonicalDestination_eq_ok_iff` is the specification of the function: it accepts the texts that
  are `Accepted`, and returns the join of their components below `/sdcard`.
* `canonicalDestination_self_iff` says when a result is accepted as itself. It is stripped before
  its separators are dropped, so a component that a separator has protected from stripping loses its
  white space the second time.
* `canonicalDestination_alias` and `canonicalDestination_padded_iff` are about other spellings of
  one destination: the two prefixes, repeated separators and dots, and white space around the text.

What is proved of `posixpath.normpath` is in `Library.Path`; here it is applied to paths that are
absolute and do not go up.
-/

namespace StylyMdm.Files

open Text

/-- The text that `canonical_destination` works on. -/
def serverText (value : Str) : Str := slashes (strip isSpace value)

/-- The texts `canonical_destination` accepts. -/
structure Accepted (value : Str) : Prop where
  nul : 0 ∉ serverText value
  absolute : (serverText value).head? = some slash
  noDots : dotdot ∉ components (serverText value)
  single : initialSlashes (serverText value) = 1
  below : [ofString "sdcard"] <+: serverParts value ∨
    [ofString "storage", ofString "emulated", ofString "0"] <+: serverParts value
  ne_nil : destinationParts value ≠ []
  unprotected : ¬ isProtected ((destinationParts value).headD [])

theorem proper_of_mem_serverParts {value part : Str} (hnul : 0 ∉ serverText value)
    (hdots : dotdot ∉ components (serverText value)) (h : part ∈ serverParts value) :
    Proper part := by
  obtain ⟨hnil, hdot, hmem⟩ := properComponents_spec h
  refine ⟨hnil, hdot, ?_, slash_not_mem_of_mem_components hmem, ?_, ?_⟩
  · rintro rfl
    exact hdots hmem
  · intro hback
    exact backslash_not_mem_slashes _ (subset_of_mem_components hmem hback)
  · intro hzero
    exact hnul (subset_of_mem_components hmem hzero)

/-- A path of single slashes is below a directory exactly when its components begin with those of
the directory. -/
theorem isBelow_join_iff {base parts : List Str} (hbase : ∀ part ∈ base, part ≠ [] ∧ slash ∉ part)
    (hne : base ≠ []) (hparts : ∀ part ∈ parts, slash ∉ part) :
    isBelow (slash :: join base) (slash :: join parts) ↔ base <+: parts := by
  constructor
  · intro h
    obtain ⟨rest, hrest⟩ := append_of_isBelow hbase hne hparts h
    exact ⟨rest, hrest.symm⟩
  · rintro ⟨rest, rfl⟩
    exact isBelow_append base rest hne

/-- The root that the server finds for a path of single slashes, and what remains below it. -/
theorem find_root_eq {parts : List Str} (hparts : ∀ part ∈ parts, part ≠ [] ∧ slash ∉ part) :
    ([sdcard, storageEmulated].find? fun base => isBelow base (slash :: join parts)) =
      if [ofString "sdcard"] <+: parts then some sdcard
      else if [ofString "storage", ofString "emulated", ofString "0"] <+: parts then
        some storageEmulated
      else none := by
  have hslash : ∀ part ∈ parts, slash ∉ part := fun part hpart => (hparts part hpart).2
  have hsdcard := @isBelow_join_iff [ofString "sdcard"] parts (by decide) (by decide) hslash
  have hstorage := @isBelow_join_iff [ofString "storage", ofString "emulated", ofString "0"] parts
    (by decide) (by decide) hslash
  rw [← sdcard_eq] at hsdcard
  rw [← storageEmulated_eq] at hstorage
  simp only [List.find?_cons, List.find?_nil]
  by_cases hin : [ofString "sdcard"] <+: parts
  · rw [hsdcard.mpr hin, if_pos hin]
  · have hnot : isBelow sdcard (slash :: join parts) = false := by
      rw [Bool.eq_false_iff]
      exact fun h => hin (hsdcard.mp h)
    rw [hnot, if_neg hin]
    by_cases hin' : [ofString "storage", ofString "emulated", ofString "0"] <+: parts
    · rw [hstorage.mpr hin', if_pos hin']
    · have hnot' : isBelow storageEmulated (slash :: join parts) = false := by
        rw [Bool.eq_false_iff]
        exact fun h => hin' (hstorage.mp h)
      rw [hnot', if_neg hin']

/-- The components below `/sdcard`. -/
theorem destinationParts_of_sdcard {value : Str} {rest : List Str}
    (h : serverParts value = ofString "sdcard" :: rest) : destinationParts value = rest := by
  rw [destinationParts, h, if_neg]
  · rfl
  · rw [List.cons_prefix_cons]
    exact fun hpre => absurd hpre.1 (by decide)

/-- The components below `/storage/emulated/0`. -/
theorem destinationParts_of_storage {value : Str} {rest : List Str}
    (h : serverParts value =
      [ofString "storage", ofString "emulated", ofString "0"] ++ rest) :
    destinationParts value = rest := by
  rw [destinationParts, h, if_pos (List.prefix_append _ _)]
  rfl

/-- What is below one of the roots has its own components last. -/
theorem destinationParts_suffix (value : Str) : destinationParts value <:+ serverParts value := by
  rw [destinationParts]
  split
  · exact List.drop_suffix _ _
  · exact List.drop_suffix _ _

section Single

variable {value : Str} (hnul : 0 ∉ serverText value)
  (habs : (serverText value).head? = some slash)
  (hdots : dotdot ∉ components (serverText value))
  (hsingle : initialSlashes (serverText value) = 1)

include habs hdots hsingle in
theorem normpath_of_single : normpath (serverText value) = slash :: join (serverParts value) := by
  obtain ⟨tail, htail⟩ := List.head?_eq_some_iff.mp habs
  rw [normpath_eq htail hdots, hsingle]
  rfl

include hnul habs hdots hsingle in
/-- `canonical_destination` of a path that begins with a single slash, when its root is found. -/
theorem canonicalDestination_of_root {root destination : Str}
    (hfind : ([sdcard, storageEmulated].find? fun base =>
      isBelow base (slash :: join (serverParts value))) = some root)
    (hstrip : strip (· = slash) ((slash :: join (serverParts value)).drop root.length) =
      join (destinationParts value)) :
    canonicalDestination value = .ok destination ↔
      destinationParts value ≠ [] ∧ ¬ isProtected ((destinationParts value).headD []) ∧
        destination = sdcard ++ slash :: join (destinationParts value) := by
  have hproper : ∀ part ∈ destinationParts value, Proper part := fun _ hpart =>
    proper_of_mem_serverParts hnul hdots ((destinationParts_suffix value).subset hpart)
  have hempty : strip isSpace value ≠ [] := by
    intro hnil
    rw [serverText, hnil] at habs
    exact absurd habs (by simp [slashes])
  have hjoin : join (destinationParts value) = [] ↔ destinationParts value = [] := by
    constructor
    · intro hnil
      by_contra hne
      obtain ⟨first, others, hcons⟩ := List.exists_cons_of_ne_nil hne
      have hmem : first ∈ destinationParts value := by simp [hcons]
      have hsub := subset_join hmem
      rw [hnil] at hsub
      exact (hproper first hmem).ne_nil (List.subset_nil.mp hsub)
    · intro hnil
      rw [hnil]
      rfl
  simp only [canonicalDestination]
  rw [← serverText, if_neg hempty, if_neg hnul, if_neg (not_not.mpr habs), if_neg hdots,
    normpath_of_single habs hdots hsingle, hfind]
  simp only [hstrip]
  by_cases hne : destinationParts value = []
  · rw [if_pos (hjoin.mpr hne)]
    exact iff_of_false (by simp) fun h => h.1 hne
  · have hcomp : components (join (destinationParts value)) = destinationParts value :=
      components_join (fun part hpart => (hproper part hpart).slash) hne
    rw [if_neg (mt hjoin.mp hne), hcomp]
    by_cases hprotected : isProtected ((destinationParts value).headD [])
    · rw [if_pos hprotected]
      exact iff_of_false (by simp) fun h => h.2.1 hprotected
    · rw [if_neg hprotected, Except.ok.injEq, eq_comm]
      exact ⟨fun h => ⟨hne, hprotected, h⟩, fun h => h.2.2⟩

include habs hdots hsingle in
/-- Without a root nothing is accepted. -/
theorem canonicalDestination_of_no_root {destination : Str}
    (hfind : ([sdcard, storageEmulated].find? fun base =>
      isBelow base (slash :: join (serverParts value))) = none) :
    canonicalDestination value ≠ .ok destination := by
  intro h
  simp only [canonicalDestination] at h
  split_ifs at h
  rw [← serverText, normpath_of_single habs hdots hsingle, hfind] at h
  exact absurd h (by simp)

include hnul habs hdots hsingle in
/-- `canonical_destination` of a path that begins with a single slash. -/
theorem canonicalDestination_of_single {destination : Str} :
    canonicalDestination value = .ok destination ↔
      ([ofString "sdcard"] <+: serverParts value ∨
        [ofString "storage", ofString "emulated", ofString "0"] <+: serverParts value) ∧
      destinationParts value ≠ [] ∧ ¬ isProtected ((destinationParts value).headD []) ∧
      destination = sdcard ++ slash :: join (destinationParts value) := by
  have hparts : ∀ part ∈ serverParts value, part ≠ [] ∧ slash ∉ part := by
    intro part hpart
    have hproper := proper_of_mem_serverParts hnul hdots hpart
    exact ⟨hproper.ne_nil, hproper.slash⟩
  have hfind := find_root_eq hparts
  -- with either root, what remains is the join of the components below it
  have hroot : ∀ base rest : List Str, base ≠ [] → base ++ rest = serverParts value →
      destinationParts value = rest →
      strip (· = slash) ((slash :: join (serverParts value)).drop (slash :: join base).length) =
        join (destinationParts value) := by
    intro base rest hne hsplit hdest
    rw [← hsplit, hdest]
    exact strip_drop_below hne fun part hpart => hparts part (by simp [← hsplit, hpart])
  by_cases hin : [ofString "sdcard"] <+: serverParts value
  · rw [if_pos hin] at hfind
    obtain ⟨rest, hrest⟩ := hin
    have hstrip := hroot _ rest (by decide) hrest (destinationParts_of_sdcard hrest.symm)
    rw [← sdcard_eq] at hstrip
    rw [canonicalDestination_of_root hnul habs hdots hsingle hfind hstrip, iff_and_self]
    exact fun _ => .inl ⟨rest, hrest⟩
  · rw [if_neg hin] at hfind
    by_cases hin' : [ofString "storage", ofString "emulated", ofString "0"] <+: serverParts value
    · rw [if_pos hin'] at hfind
      obtain ⟨rest, hrest⟩ := hin'
      have hstrip := hroot _ rest (by decide) hrest (destinationParts_of_storage hrest.symm)
      rw [← storageEmulated_eq] at hstrip
      rw [canonicalDestination_of_root hnul habs hdots hsingle hfind hstrip, iff_and_self]
      exact fun _ => .inr ⟨rest, hrest⟩
    · rw [if_neg hin'] at hfind
      refine iff_of_false (canonicalDestination_of_no_root habs hdots hsingle hfind) ?_
      rintro ⟨hbelow, -⟩
      exact hbelow.elim hin hin'

end Single

/-- Exactly these texts are accepted, and the result is made of their components. -/
theorem canonicalDestination_eq_ok_iff {value destination : Str} :
    canonicalDestination value = .ok destination ↔
      Accepted value ∧ destination = sdcard ++ slash :: join (destinationParts value) := by
  constructor
  · intro h
    have hchecks := h
    simp only [canonicalDestination] at hchecks
    split_ifs at hchecks with hempty hnul habs hdots
    rw [← serverText] at hnul hdots
    rw [← serverText, not_not] at habs
    obtain ⟨tail, htail⟩ := List.head?_eq_some_iff.mp habs
    rcases initialSlashes_absolute htail with hsingle | hdouble
    · obtain ⟨hbelow, hne, hprotected, hdest⟩ :=
        (canonicalDestination_of_single hnul habs hdots hsingle).mp h
      exact ⟨⟨hnul, habs, hdots, hsingle, hbelow, hne, hprotected⟩, hdest⟩
    · -- no root begins with two slashes
      have hnorm : normpath (serverText value) =
          slash :: slash :: join (properComponents (serverText value)) := by
        rw [normpath_eq htail hdots, hdouble]
        rfl
      have hsdcard : isBelow sdcard (normpath (serverText value)) = false := by
        rw [Bool.eq_false_iff, hnorm, sdcard_eq]
        exact not_isBelow_of_two_slashes (by decide) (by decide) _
      have hstorage : isBelow storageEmulated (normpath (serverText value)) = false := by
        rw [Bool.eq_false_iff, hnorm, storageEmulated_eq]
        exact not_isBelow_of_two_slashes (by decide) (by decide) _
      rw [← serverText, List.find?_cons, hsdcard, List.find?_cons, hstorage, List.find?_nil]
        at hchecks
      exact absurd hchecks (by simp)
  · rintro ⟨h, hdest⟩
    exact (canonicalDestination_of_single h.nul h.absolute h.noDots h.single).mpr
      ⟨h.below, h.ne_nil, h.unprotected, hdest⟩

/-! ### Results -/

theorem proper_of_accepted {value : Str} (h : Accepted value) :
    ∀ part ∈ destinationParts value, Proper part := fun _ hpart =>
  proper_of_mem_serverParts h.nul h.noDots ((destinationParts_suffix value).subset hpart)

/-- The last component of a destination is the last one of its text. -/
theorem getLast?_destinationParts {value : Str} (hne : destinationParts value ≠ []) :
    (destinationParts value).getLast? = (serverParts value).getLast? := by
  obtain ⟨init, hinit⟩ := destinationParts_suffix value
  rw [← hinit, List.getLast?_append_of_ne_nil _ hne]

/-- The text of a destination is at least as long as the components the server takes from it. -/
theorem length_destination_le {value : Str} (h : Accepted value) :
    (sdcard ++ slash :: join (destinationParts value)).length ≤ (serverText value).length := by
  obtain ⟨rest, hrest⟩ := List.head?_eq_some_iff.mp h.absolute
  have hlt := length_join_properComponents_lt hrest
  have hle : (sdcard ++ slash :: join (destinationParts value)).length ≤
      (join (serverParts value)).length + 1 := by
    rcases h.below with ⟨parts, hparts⟩ | ⟨parts, hparts⟩
    · have hdest : destinationParts value = parts := destinationParts_of_sdcard hparts.symm
      have hne := h.ne_nil
      rw [hdest] at hne ⊢
      rw [destination_eq hne, ← hparts, List.length_cons]
      exact le_rfl
    · have hdest : destinationParts value = parts := destinationParts_of_storage hparts.symm
      have hne := h.ne_nil
      rw [hdest] at hne ⊢
      rw [← hparts, join_append _ _ (by decide) hne, List.length_append, List.length_append]
      have hlen : sdcard.length ≤ (join [ofString "storage", ofString "emulated",
        ofString "0"]).length := by decide
      omega
  exact hle.trans hlt

/-- A result is its own canonical spelling unless its last component ends in white space. -/
theorem canonicalDestination_self_iff {value destination : Str}
    (h : canonicalDestination value = .ok destination) :
    canonicalDestination destination = .ok destination ↔
      ∀ part ∈ (serverParts value).getLast?, ∀ c ∈ part.getLast?, ¬ isSpace c := by
  obtain ⟨haccepted, hdest⟩ := canonicalDestination_eq_ok_iff.mp h
  have hproper := proper_of_accepted haccepted
  have hne := haccepted.ne_nil
  rw [← getLast?_destinationParts hne]
  have hlastDest : ∀ part ∈ (destinationParts value).getLast?,
      destination.getLast? = part.getLast? := by
    intro part hpart
    rw [hdest]
    exact getLast?_destination hne (fun part hpart => (hproper part hpart).ne_nil) hpart
  constructor
  · intro hself part hpart c hc hspace
    -- stripping shortens the destination, which the result cannot make up for
    have hshort : (strip isSpace destination).length < destination.length := by
      have hsub := strip_sublist isSpace destination
      refine lt_of_le_of_ne hsub.length_le fun hlen => ?_
      have hlast : c ∈ (strip isSpace destination).getLast? := by
        rw [hsub.eq_of_length hlen, hlastDest part hpart]
        exact hc
      exact not_of_getLast?_strip hlast hspace
    obtain ⟨haccepted', hdest'⟩ := canonicalDestination_eq_ok_iff.mp hself
    have hle := length_destination_le haccepted'
    rw [← hdest', serverText, slashes, List.length_map] at hle
    omega
  · intro hlast
    have hall : ∀ part ∈ ofString "sdcard" :: destinationParts value, Proper part := by
      intro part hpart
      rcases List.mem_cons.mp hpart with rfl | hpart
      · exact ⟨by decide, by decide, by decide, by decide, by decide, by decide⟩
      · exact hproper part hpart
    have hjoin : destination = slash :: join (ofString "sdcard" :: destinationParts value) := by
      rw [hdest, destination_eq hne]
    have hmem : ∀ c ∈ destination, c = slash ∨
        ∃ part ∈ ofString "sdcard" :: destinationParts value, c ∈ part := by
      intro c hc
      rw [hjoin, List.mem_cons] at hc
      exact hc.elim .inl mem_join
    have hstrip : strip isSpace destination = destination := by
      refine strip_eq_self ?_ ?_
      · rw [hjoin]
        intro c hc
        rw [← Option.some.inj hc]
        decide
      · intro c hc
        obtain ⟨part, hpart⟩ := Option.ne_none_iff_exists'.mp
          (mt List.getLast?_eq_none_iff.mp hne)
        rw [hlastDest part hpart] at hc
        exact hlast part hpart c hc
    have htext : serverText destination =
        slash :: join (ofString "sdcard" :: destinationParts value) := by
      rw [serverText, hstrip, slashes_eq_self, hjoin]
      intro hback
      rcases hmem _ hback with heq | ⟨part, hpart, hin⟩
      · exact absurd heq (by decide)
      · exact (hall part hpart).backslash hin
    obtain ⟨hcomp, hparts⟩ := properComponents_join
      (fun part hpart => ⟨(hall part hpart).ne_nil, (hall part hpart).ne_dot,
        (hall part hpart).slash⟩) (List.cons_ne_nil (ofString "sdcard") (destinationParts value))
    have hserver : serverParts destination = ofString "sdcard" :: destinationParts value := by
      rw [serverParts, ← serverText, htext, hparts]
    have hself := destinationParts_of_sdcard hserver
    rw [canonicalDestination_eq_ok_iff, hself]
    refine ⟨?_, hdest⟩
    exact
      { nul := by
          rw [htext, ← hjoin]
          intro hnul
          rcases hmem _ hnul with heq | ⟨part, hpart, hin⟩
          · exact absurd heq (by decide)
          · exact (hall part hpart).nul hin
        absolute := by rw [htext]; rfl
        noDots := by
          rw [htext, hcomp, List.mem_cons, not_or]
          exact ⟨by decide, fun hin => (hall _ hin).ne_dotdot rfl⟩
        single := by
          obtain ⟨first, others, hcons⟩ := List.exists_cons_of_ne_nil hne
          rw [htext, hcons, join_cons_cons]
          rfl
        below := .inl ⟨destinationParts value, by rw [hserver]; rfl⟩
        ne_nil := by rw [hself]; exact hne
        unprotected := by rw [hself]; exact haccepted.unprotected }

/-! ### Other spellings -/

/-- Spellings with the same components below the shared storage have the same result. -/
theorem canonicalDestination_congr {value value' destination : Str}
    (h : canonicalDestination value = .ok destination) (haccepted : Accepted value')
    (hparts : destinationParts value' = destinationParts value) :
    canonicalDestination value' = .ok destination := by
  obtain ⟨-, hdest⟩ := canonicalDestination_eq_ok_iff.mp h
  exact canonicalDestination_eq_ok_iff.mpr ⟨haccepted, by rw [hparts, hdest]⟩

theorem slashes_append (text rest : Str) : slashes (text ++ rest) = slashes text ++ slashes rest :=
  List.map_append

/-- The text of a destination below a directory, whatever blanks stand before it. -/
theorem serverText_below {blanks rest base : Str} {last : Point}
    (hblanks : ∀ c ∈ blanks, isSpace c) (hhead : (base ++ [last]).head? = some slash)
    (hback : backslash ∉ base ++ [last]) (hlast : ¬ isSpace last) :
    serverText (blanks ++ (base ++ [last]) ++ rest) =
      base ++ [last] ++ slashes (rest.rdropWhile isSpace) := by
  have hdrop : (blanks ++ base).dropWhile isSpace = base := by
    rw [List.dropWhile_append, List.dropWhile_eq_nil_iff.mpr hblanks, List.isEmpty_nil, if_pos rfl]
    rcases base with _ | ⟨c, base⟩
    · rfl
    · rw [List.cons_append, List.head?_cons, Option.some_inj] at hhead
      exact List.dropWhile_cons_of_neg (by rw [hhead]; decide)
  have hsplit : blanks ++ (base ++ [last]) ++ rest = blanks ++ base ++ last :: rest := by simp
  rw [serverText, hsplit, strip_append_of_head hlast, hdrop, ← List.singleton_append,
    ← List.append_assoc, slashes_append, slashes_eq_self hback]

/-- Below `/sdcard` a path goes on with a separator. -/
theorem exists_slash_of_accepted {value tail : Str} (h : Accepted value)
    (htext : serverText value = sdcard ++ tail) : ∃ tail', tail = slash :: tail' := by
  obtain ⟨first, others, hcons⟩ := List.exists_cons_of_ne_nil (components_ne_nil tail)
  have hslash : slash ∉ ofString "sdcard" ++ first := by
    rw [List.mem_append, not_or]
    exact ⟨by decide, slash_not_mem_of_mem_components (by rw [hcons]; exact List.mem_cons_self)⟩
  -- the first component of the path is `sdcard` and the first component of the tail
  have hcomp : components (serverText value) = [] :: (ofString "sdcard" ++ first) :: others := by
    have htail : sdcard ++ tail = slash :: join ((ofString "sdcard" ++ first) :: others) := by
      rw [sdcard_eq, ← join_components tail, hcons]
      rcases others with _ | ⟨second, others⟩
      · simp [join]
      · rw [join_cons_cons, join_cons_cons]
        simp [join]
    have hall : ∀ part ∈ (ofString "sdcard" ++ first) :: others, slash ∉ part := by
      intro part hpart
      rcases List.mem_cons.mp hpart with rfl | hpart
      · exact hslash
      · exact slash_not_mem_of_mem_components (by rw [hcons]; exact List.mem_cons_of_mem _ hpart)
    have happend := components_append_slash [] (join ((ofString "sdcard" ++ first) :: others))
    rw [components_join hall (List.cons_ne_nil _ _)] at happend
    rw [htext, htail]
    exact happend
  have hfirst : first = [] := by
    have hserver : serverParts value = (ofString "sdcard" ++ first) ::
        others.filter fun part => part ≠ [] ∧ part ≠ dot := by
      have hproper : ofString "sdcard" ++ first ≠ [] ∧ ofString "sdcard" ++ first ≠ dot :=
        ⟨by simp [ofString], by simp [ofString, dot]⟩
      rw [serverParts, ← serverText, properComponents, hcomp, List.filter_cons_of_neg (by simp),
        List.filter_cons_of_pos (by rw [decide_eq_true_iff]; exact hproper)]
    rcases h.below with hbelow | hbelow
    · rw [hserver, List.cons_prefix_cons] at hbelow
      exact List.self_eq_append_right.mp hbelow.1
    · rw [hserver, List.cons_prefix_cons] at hbelow
      exact absurd (congrArg (fun l => l[1]?) hbelow.1) (by simp [ofString])
  rcases tail with _ | ⟨c, tail⟩
  · -- nothing below `/sdcard`
    have hserver : serverParts value = [ofString "sdcard"] := by
      rw [serverParts, ← serverText, htext]
      decide
    exact absurd (destinationParts_of_sdcard hserver) h.ne_nil
  · refine ⟨tail, ?_⟩
    rw [← join_components (c :: tail), hcons, hfirst]
    rcases others with _ | ⟨second, others⟩
    · rw [hfirst] at hcons
      have hnil := join_components (c :: tail)
      rw [hcons] at hnil
      exact absurd hnil (by simp [join])
    · have hjoin := join_components (c :: tail)
      rw [hcons, hfirst, join_cons_cons, List.nil_append] at hjoin
      rw [join_cons_cons, List.nil_append, (List.cons.inj hjoin).2]

/-- `/storage/emulated/0` is another name of `/sdcard`. -/
theorem canonicalDestination_alias {blanks rest destination : Str}
    (hblanks : ∀ c ∈ blanks, isSpace c)
    (h : canonicalDestination (blanks ++ sdcard ++ rest) = .ok destination) :
    canonicalDestination (blanks ++ storageEmulated ++ rest) = .ok destination := by
  obtain ⟨haccepted, -⟩ := canonicalDestination_eq_ok_iff.mp h
  have hsplit : sdcard = ofString "/sdcar" ++ [100] := by decide +kernel
  have hsplit' : storageEmulated = ofString "/storage/emulated/" ++ [48] := by decide +kernel
  have hsdcard : serverText (blanks ++ sdcard ++ rest) =
      sdcard ++ slashes (rest.rdropWhile isSpace) := by
    rw [hsplit]
    exact serverText_below hblanks (by decide) (by decide +kernel) (by decide)
  have hstorage : serverText (blanks ++ storageEmulated ++ rest) =
      storageEmulated ++ slashes (rest.rdropWhile isSpace) := by
    rw [hsplit']
    exact serverText_below hblanks (by decide) (by decide +kernel) (by decide)
  obtain ⟨tail, htail⟩ := exists_slash_of_accepted haccepted hsdcard
  rw [htail] at hsdcard hstorage
  have hcomp : components (serverText (blanks ++ sdcard ++ rest)) =
      [[], ofString "sdcard"] ++ components tail := by
    rw [hsdcard, components_append_slash]
    rfl
  have hcomp' : components (serverText (blanks ++ storageEmulated ++ rest)) =
      [[], ofString "storage", ofString "emulated", ofString "0"] ++ components tail := by
    rw [hstorage, components_append_slash]
    rfl
  have hparts : serverParts (blanks ++ sdcard ++ rest) = ofString "sdcard" ::
      (components tail).filter fun part => part ≠ [] ∧ part ≠ dot := by
    rw [serverParts, ← serverText, properComponents, hcomp, List.filter_append]
    rfl
  have hparts' : serverParts (blanks ++ storageEmulated ++ rest) =
      [ofString "storage", ofString "emulated", ofString "0"] ++
        (components tail).filter fun part => part ≠ [] ∧ part ≠ dot := by
    rw [serverParts, ← serverText, properComponents, hcomp', List.filter_append]
    rfl
  have hdest := destinationParts_of_sdcard hparts
  have hdest' := destinationParts_of_storage hparts'
  refine canonicalDestination_congr h ?_ (by rw [hdest, hdest'])
  exact
    { nul := by
        have hnul := haccepted.nul
        rw [hsdcard, List.mem_append, not_or] at hnul
        rw [hstorage, List.mem_append, not_or]
        exact ⟨by decide, hnul.2⟩
      absolute := by rw [hstorage]; rfl
      noDots := by
        have hdots := haccepted.noDots
        rw [hcomp, List.mem_append, not_or] at hdots
        rw [hcomp', List.mem_append, not_or]
        exact ⟨by decide, hdots.2⟩
      single := by rw [hstorage]; rfl
      below := .inr ⟨_, hparts'.symm⟩
      ne_nil := by rw [hdest', ← hdest]; exact haccepted.ne_nil
      unprotected := by rw [hdest', ← hdest]; exact haccepted.unprotected }

/-- A separator of either kind. -/
def isSeparator (c : Point) : Bool := c = slash ∨ c = backslash

/-- `value'` is `value` with separators, or separators with a dot behind them, put in before a
separator or at the end. -/
inductive Padded : Str → Str → Prop
  | mk (before after : Str) (pieces : List Str)
      (hpieces : ∀ piece ∈ pieces, ∃ s, isSeparator s ∧ (piece = [s] ∨ piece = s :: dot))
      (hafter : (∃ s rest, after = s :: rest ∧ isSeparator s) ∨
        ((∀ c ∈ after, isSpace c) ∧ ∀ c ∈ before.getLast?, ¬ isSpace c)) :
      Padded (before ++ after) (before ++ pieces.flatten ++ after)

theorem slashes_separator {s : Point} (h : isSeparator s) (text : Str) :
    slashes (s :: text) = slash :: slashes text := by
  rw [isSeparator, decide_eq_true_iff] at h
  rw [slashes, List.map_cons, ← slashes]
  rcases h with rfl | rfl
  · rw [if_neg (by decide)]
  · rw [if_pos rfl]

theorem not_isSpace_of_isSeparator {s : Point} (h : isSeparator s) : ¬ isSpace s := by
  rw [isSeparator, decide_eq_true_iff] at h
  rcases h with rfl | rfl <;> decide

/-- The pieces that are put in, as the server reads them. -/
theorem slashes_pieces {pieces : List Str}
    (h : ∀ piece ∈ pieces, ∃ s, isSeparator s ∧ (piece = [s] ∨ piece = s :: dot)) :
    ∃ marks : List Str, (∀ mark ∈ marks, mark = [] ∨ mark = dot) ∧
      slashes pieces.flatten = marks.flatMap (slash :: ·) := by
  induction pieces with
  | nil => exact ⟨[], by simp, rfl⟩
  | cons piece pieces ih =>
    rw [List.forall_mem_cons] at h
    obtain ⟨⟨s, hs, hpiece⟩, hpieces⟩ := h
    obtain ⟨marks, hmarks, heq⟩ := ih hpieces
    rw [List.flatten_cons, slashes_append, heq]
    rcases hpiece with rfl | rfl
    · refine ⟨[] :: marks, List.forall_mem_cons.mpr ⟨.inl rfl, hmarks⟩, ?_⟩
      rw [slashes_separator hs]
      rfl
    · refine ⟨dot :: marks, List.forall_mem_cons.mpr ⟨.inr rfl, hmarks⟩, ?_⟩
      rw [slashes_separator hs]
      rfl

theorem not_isSpace_of_mem_pieces {pieces : List Str}
    (h : ∀ piece ∈ pieces, ∃ s, isSeparator s ∧ (piece = [s] ∨ piece = s :: dot)) {c : Point}
    (hc : c ∈ pieces.flatten) : ¬ isSpace c := by
  obtain ⟨piece, hpiece, hmem⟩ := List.mem_flatten.mp hc
  obtain ⟨s, hs, rfl | rfl⟩ := h piece hpiece
  · rw [List.mem_singleton.mp hmem]
    exact not_isSpace_of_isSeparator hs
  · rcases List.mem_cons.mp hmem with rfl | hmem
    · exact not_isSpace_of_isSeparator hs
    · rw [List.mem_singleton.mp hmem]
      decide

/-- What is put in stands in the text of the server between two parts of the old text. -/
theorem serverText_padded {value value' : Str} (h : Padded value value') :
    ∃ (before after : Str) (marks : List Str), (∀ mark ∈ marks, mark = [] ∨ mark = dot) ∧
      (after = [] ∨ ∃ rest, after = slash :: rest) ∧ serverText value = before ++ after ∧
      serverText value' = before ++ marks.flatMap (slash :: ·) ++ after := by
  obtain ⟨before, after, pieces, hpieces, hafter⟩ := h
  obtain ⟨marks, hmarks, heq⟩ := slashes_pieces hpieces
  refine ⟨slashes (before.dropWhile isSpace), ?_⟩
  -- nothing of what is put in is stripped
  have hnone : ∀ c ∈ pieces.flatten, ¬ isSpace c := fun c => not_isSpace_of_mem_pieces hpieces
  have hdrop : (before ++ pieces.flatten).dropWhile isSpace =
      before.dropWhile isSpace ++ pieces.flatten := by
    rw [List.dropWhile_append]
    split
    · rename_i hempty
      rw [List.isEmpty_iff.mp hempty, List.nil_append, List.dropWhile_eq_self_iff]
      exact fun hpos => hnone _ (List.getElem_mem hpos)
    · rfl
  rcases hafter with ⟨s, rest, rfl, hs⟩ | ⟨hblank, hlast⟩
  · have hspace := not_isSpace_of_isSeparator hs
    refine ⟨slash :: slashes (rest.rdropWhile isSpace), marks, hmarks, .inr ⟨_, rfl⟩, ?_, ?_⟩
    · rw [serverText, strip_append_of_head hspace, slashes_append, slashes_separator hs]
    · rw [serverText, strip_append_of_head hspace, hdrop, slashes_append, slashes_append, heq,
        slashes_separator hs]
  · have hlast' : ∀ c ∈ (before ++ pieces.flatten).getLast?, ¬ isSpace c := by
      intro c hc
      rw [List.getLast?_append, Option.mem_def, Option.or_eq_some_iff] at hc
      rcases hc with hc | ⟨-, hc⟩
      · exact hnone c (List.mem_of_getLast? hc)
      · exact hlast c hc
    refine ⟨[], marks, hmarks, .inl rfl, ?_, ?_⟩
    · rw [serverText, strip_append_of_all hblank, strip_eq_dropWhile hlast, List.append_nil]
    · rw [serverText, strip_append_of_all hblank, strip_eq_dropWhile hlast', hdrop, slashes_append,
        heq, List.append_nil]

/-- Separators and dots that are put in are accepted, and change nothing, unless the destination
then begins with exactly two separators. -/
theorem canonicalDestination_padded_iff {value value' destination : Str}
    (h : canonicalDestination value = .ok destination)
    (hpadded : Padded value value') :
    canonicalDestination value' = .ok destination ↔ initialSlashes (serverText value') ≠ 2 := by
  obtain ⟨haccepted, -⟩ := canonicalDestination_eq_ok_iff.mp h
  obtain ⟨before, after, marks, hmarks, hafter, htext, htext'⟩ := serverText_padded hpadded
  constructor
  · intro hok hdouble
    have hsingle := (canonicalDestination_eq_ok_iff.mp hok).1.single
    omega
  · intro hdouble
    have hmarksSlash : ∀ mark ∈ marks, slash ∉ mark := by
      intro mark hmark
      rcases hmarks mark hmark with rfl | rfl <;> decide
    -- the components of the new text are the old ones and, among them, the marks
    obtain ⟨rest, hcomp, hcomp'⟩ : ∃ rest,
        components (serverText value) = components before ++ rest ∧
        components (serverText value') = components before ++ marks ++ rest := by
      rcases hafter with rfl | ⟨rest, rfl⟩
      · refine ⟨[], ?_, ?_⟩
        · rw [htext, List.append_nil, List.append_nil]
        · rw [htext', List.append_nil, components_append_marks before hmarksSlash, List.append_nil]
      · refine ⟨components rest, ?_, ?_⟩
        · rw [htext, components_append_slash]
        · rw [htext', components_append_slash, components_append_marks before hmarksSlash]
    have hparts : serverParts value' = serverParts value := by
      have hmarksNil : marks.filter (fun part => part ≠ [] ∧ part ≠ dot) = [] := by
        rw [List.filter_eq_nil_iff]
        intro mark hmark
        rcases hmarks mark hmark with rfl | rfl <;> decide
      rw [serverParts, serverParts, ← serverText, ← serverText, properComponents, properComponents,
        hcomp, hcomp', List.filter_append, List.filter_append, List.filter_append, hmarksNil,
        List.append_nil]
    have hdest : destinationParts value' = destinationParts value := by
      rw [destinationParts, destinationParts, hparts]
    have habs : (serverText value').head? = some slash := by
      have habs := haccepted.absolute
      rw [htext, List.head?_append] at habs
      rw [htext', List.append_assoc, List.head?_append]
      rcases before with _ | ⟨c, before⟩
      · rcases marks with _ | ⟨mark, marks⟩
        · simpa using habs
        · rfl
      · simpa using habs
    refine canonicalDestination_congr h ?_ hdest
    exact
      { nul := by
          have hnul := haccepted.nul
          rw [htext, List.mem_append, not_or] at hnul
          rw [htext', List.mem_append, List.mem_append, not_or, not_or]
          refine ⟨⟨hnul.1, fun hmem => ?_⟩, hnul.2⟩
          obtain ⟨mark, hmark, hin⟩ := List.mem_flatMap.mp hmem
          rcases hmarks mark hmark with rfl | rfl
          · exact absurd hin (by decide)
          · exact absurd hin (by decide)
        absolute := habs
        noDots := by
          have hdots := haccepted.noDots
          rw [hcomp, List.mem_append, not_or] at hdots
          rw [hcomp', List.mem_append, List.mem_append, not_or, not_or]
          refine ⟨⟨hdots.1, fun hmem => ?_⟩, hdots.2⟩
          rcases hmarks _ hmem with heq | heq
          · exact absurd heq (by decide)
          · exact absurd heq (by decide)
        single := by
          obtain ⟨tail, htail⟩ := List.head?_eq_some_iff.mp habs
          exact (initialSlashes_absolute htail).resolve_right hdouble
        below := by rw [hparts]; exact haccepted.below
        ne_nil := by rw [hdest]; exact haccepted.ne_nil
        unprotected := by rw [hdest]; exact haccepted.unprotected }

end StylyMdm.Files
