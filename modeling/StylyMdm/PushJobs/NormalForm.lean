import StylyMdm.Files.Canonical
import StylyMdm.Library.Run
import StylyMdm.PushJobs.Request

/-!
# Is the canonical request a normal form?

The canonical request, sent back as a body, is accepted as itself except in two cases, both of
which concern white space that becomes the end of a text only after the text was stripped: the last
component of the destination, and the last of the 255 characters that are kept of a display name.
The fingerprint depends on the canonical request only, and determines its payload.

The first section takes an accepted body apart, field by field (`canonicalize_eq_ok_iff`); the
second sends each field back (`canonicalize_body_iff`), with the results on destinations of
`Files.Canonical`. What the fingerprint depends on is settled by reading the payload's text from the
front (`payloadText_inj`), which is what `Library.JsonText` is for: two requests with different
payloads never have the same text.

Other spellings of a body are those with fields in another order, with fields the server does not
read, and with white space or separators that it drops (`canonicalize_permuted`,
`canonicalize_replaced_iff`). They give the same canonical request, and so the same fingerprint.
-/

namespace StylyMdm.PushJobs

open Text Py Files

/-! ### The parts of an accepted body -/

section Parts

variable {decimal : Point → Option (Fin 10)} {sha256 : ByteArray → String}

theorem canonicalize_eq_ok_iff {data : Value} {request : CanonicalCreateRequest} :
    canonicalizeCreateRequest decimal sha256 data = .ok request ↔
      ∃ id, requireUuid decimal (data.get (ofString "client_request_id")) "client_request_id" =
        .ok id ∧
      ∃ targets, cleanedTargets (data.get (ofString "target_devices")) = .ok targets ∧
      ∃ mode, parseMode (data.get? (ofString "mode")) = .ok mode ∧
      ∃ destPath, parseDestination (data.get (ofString "dest_path")) = .ok destPath ∧
      (data.get (ofString "source")).isObj ∧
      ∃ displayName, parseDisplayName ((data.get (ofString "source")).get
        (ofString "display_name")) = .ok displayName ∧
      ∃ count, parseFileCount ((data.get (ofString "source")).get
        (ofString "declared_file_count")) = .ok count ∧
      ∃ bytes, parseTotalBytes ((data.get (ofString "source")).get
        (ofString "declared_total_bytes")) = .ok bytes ∧
      sealRequest sha256 id targets mode destPath displayName count bytes = .ok request := by
  have hobject : ∀ u : Unit, requireObject (data.get (ofString "source")) = .ok u ↔
      (data.get (ofString "source")).isObj := by
    intro u
    rw [requireObject]
    split
    · rename_i hobj
      exact iff_of_true rfl hobj
    · rename_i hobj
      exact iff_of_false (by simp) hobj
  simp only [canonicalizeCreateRequest, Except.bind_eq_ok, hobject, exists_const]

/-- What a sealed request holds. -/
theorem sealRequest_eq_ok_iff {id : String}
    {targets : { targets : List Str // targets ≠ [] ∧ targets.Nodup }} {mode : PushMode}
    {destPath displayName : Str} {count bytes : Nat} {request : CanonicalCreateRequest} :
    sealRequest sha256 id targets mode destPath displayName count bytes = .ok request ↔
      (∀ target ∈ targets.1, encodable target) ∧ encodable destPath ∧ encodable displayName ∧
      request.clientRequestId = id ∧ request.targetDevices = sortedTargets targets.1 ∧
      request.mode = mode ∧ request.destPath = asString destPath ∧
      request.source = ⟨asString displayName, count, bytes⟩ ∧
      request.fingerprint = sha256 (String.ofList (payloadText request.targetDevices request.mode
        request.destPath request.source)).toUTF8 := by
  rw [sealRequest]
  split
  · rename_i h
    rw [Except.ok.injEq]
    constructor
    · rintro rfl
      exact ⟨h.1, h.2.1, h.2.2, rfl, rfl, rfl, rfl, rfl, rfl⟩
    · rintro ⟨-, -, -, hid, htargets, hmode, hdest, hsource, hfingerprint⟩
      obtain ⟨id', targets', mode', destPath', source', fingerprint'⟩ := request
      dsimp only at hid htargets hmode hdest hsource hfingerprint
      subst hid htargets hmode hdest hsource hfingerprint
      rfl
  · rename_i h
    exact iff_of_false (by simp) fun hall => h ⟨hall.1, hall.2.1, hall.2.2.1⟩

/-- The canonical spelling of a request id is accepted as it is. -/
theorem requireUuid_self {value : Value} {field id : String}
    (h : requireUuid decimal value field = .ok id) :
    requireUuid decimal (.str (ofString id)) field = .ok id := by
  cases value with
  | str text =>
    simp only [requireUuid] at h
    split at h
    · exact absurd h (by simp)
    · rename_i parsed hparsed
      split_ifs at h with hversion
      obtain rfl := Except.ok.inj h
      have hascii : asciiText decimal (ofString (uuidText parsed)) = uuidText parsed := by
        rw [asciiText, ofString, List.map_map, ← String.toList_inj, String.toList_ofList]
        refine (List.map_congr_left fun c hc => ?_).trans (List.map_id _)
        simp only [Function.comp, if_pos (toNat_lt_of_mem_uuidText hc), Char.ofNat_toNat, id]
      rw [requireUuid]
      simp only [hascii, uuidInt_uuidText (uuidInt_lt hparsed), hversion, if_true]
  | _ => exact absurd h (by simp [requireUuid])

theorem cleanedTargets_eq_ok {value : Value}
    {targets : { targets : List Str // targets ≠ [] ∧ targets.Nodup }}
    (h : cleanedTargets value = .ok targets) :
    ∃ items, value = .arr items ∧ ¬ items.isEmpty ∧ ¬ items.any isBlankItem ∧
      strippedItems items = targets.1 := by
  cases value with
  | arr items =>
    simp only [cleanedTargets] at h
    split_ifs at h with hempty hblank hdup
    exact ⟨items, rfl, hempty, hblank, by rw [← Except.ok.inj h]⟩
  | _ => exact absurd h (by simp [cleanedTargets])

/-- What decides on the list of targets. -/
theorem cleanedTargets_arr {items : List Value} (hempty : ¬ items.isEmpty)
    (hblank : ¬ items.any isBlankItem) (hdup : (strippedItems items).Nodup) :
    ∃ targets, cleanedTargets (.arr items) = .ok targets ∧ targets.1 = strippedItems items :=
  ⟨⟨strippedItems items, strippedItems_ne_nil hempty hblank, hdup⟩,
    by rw [cleanedTargets, dif_neg hempty, dif_neg hblank, dif_pos hdup], rfl⟩

theorem strip_of_mem_strippedItems {items : List Value} {target : Str}
    (h : target ∈ strippedItems items) (hblank : ¬ items.any isBlankItem) :
    strip isSpace target = target ∧ target ≠ [] := by
  obtain ⟨item, hitem, hstr⟩ := List.mem_filterMap.mp h
  obtain ⟨text, htext, rfl⟩ := Option.map_eq_some_iff.mp hstr
  refine ⟨strip_strip, fun hnil => hblank ?_⟩
  rw [List.any_eq_true]
  exact ⟨item, hitem, by simp [isBlankItem, htext, hnil]⟩

theorem strippedItems_strings {targets : List Str} (h : ∀ target ∈ targets,
    strip isSpace target = target) : strippedItems (targets.map .str) = targets := by
  rw [strippedItems, List.filterMap_map]
  have hself : ∀ target ∈ targets,
      ((fun item : Value => item.asStr.map (strip isSpace)) ∘ Value.str) target = some target := by
    intro target htarget
    simp [Value.asStr, h target htarget]
  rw [List.filterMap_congr hself, List.filterMap_some]

/-- The sorted targets, sent back, are the same targets again. -/
theorem sortedTargets_ofString {ids : List String} (h : ids.Pairwise (· < ·)) :
    sortedTargets (ids.map ofString) = ids := by
  have hmap : (ids.map ofString).map asString = ids := by
    rw [List.map_map]
    exact (List.map_congr_left fun id _ => asString_ofString id).trans (List.map_id _)
  rw [sortedTargets, hmap]
  exact List.mergeSort_of_pairwise (h.imp fun hlt => decide_eq_true (le_of_lt hlt))

theorem cleanedTargets_self {value : Value}
    {targets : { targets : List Str // targets ≠ [] ∧ targets.Nodup }}
    (h : cleanedTargets value = .ok targets) (hencodable : ∀ target ∈ targets.1, encodable target) :
    ∃ targets', cleanedTargets (.arr ((sortedTargets targets.1).map fun id => .str (ofString id))) =
        .ok targets' ∧
      targets'.1 = (sortedTargets targets.1).map ofString := by
  obtain ⟨items, -, -, hblank, hitems⟩ := cleanedTargets_eq_ok h
  have hsorted := pairwise_sortedTargets targets.2.2 hencodable
  -- every id that is sent back is a stripped target
  have hmem : ∀ text ∈ (sortedTargets targets.1).map ofString, text ∈ targets.1 := by
    intro text htext
    obtain ⟨id, hid, rfl⟩ := List.mem_map.mp htext
    obtain ⟨target, htarget, rfl⟩ := List.mem_map.mp ((sortedTargets_perm _).subset hid)
    rwa [ofString_asString (hencodable target htarget)]
  have hstrip : ∀ text ∈ (sortedTargets targets.1).map ofString,
      strip isSpace text = text ∧ text ≠ [] :=
    fun text htext => strip_of_mem_strippedItems (hitems ▸ hmem text htext) hblank
  have hstrings : (sortedTargets targets.1).map (fun id => Value.str (ofString id)) =
      ((sortedTargets targets.1).map ofString).map .str := by
    rw [List.map_map]
    rfl
  have hsame := strippedItems_strings fun text htext => (hstrip text htext).1
  have hnodup : ((sortedTargets targets.1).map ofString).Nodup := by
    refine (List.nodup_map_iff ?_).mpr (hsorted.imp ne_of_lt)
    exact fun s t heq => ofString_inj.mp heq
  have hempty : ¬ (((sortedTargets targets.1).map ofString).map Value.str).isEmpty := by
    rw [List.isEmpty_iff, List.map_eq_nil_iff, List.map_eq_nil_iff, ← List.length_eq_zero_iff,
      (sortedTargets_perm _).length_eq, List.length_map, List.length_eq_zero_iff]
    exact targets.2.1
  have hblank' : ¬ (((sortedTargets targets.1).map ofString).map Value.str).any isBlankItem := by
    rw [List.any_eq_true]
    rintro ⟨item, hitem, hbad⟩
    obtain ⟨text, htext, rfl⟩ := List.mem_map.mp hitem
    obtain ⟨hself, hne⟩ := hstrip text htext
    simp [isBlankItem, Value.asStr, hself, hne] at hbad
  obtain ⟨targets', hok, htargets'⟩ :=
    cleanedTargets_arr hempty hblank' (by rw [hsame]; exact hnodup)
  rw [hstrings]
  exact ⟨targets', hok, htargets'.trans hsame⟩

theorem parseMode_self (mode : PushMode) :
    parseMode (some (.str (ofString mode.value))) = .ok mode := by
  cases mode <;> decide

theorem parseDestination_eq_ok_iff {value : Value} {destPath : Str} :
    parseDestination value = .ok destPath ↔
      ∃ text, value = .str text ∧ canonicalDestination text = .ok destPath := by
  cases value with
  | str text =>
    simp only [parseDestination, Value.str.injEq, exists_eq_left']
    split
    · rename_i destination hdest
      rw [hdest, Except.ok.injEq, Except.ok.injEq]
    · rename_i message hmessage
      rw [hmessage]
      exact iff_of_false (by simp) (by simp)
  | _ => exact iff_of_false (by simp [parseDestination]) (by simp)

theorem parseDisplayName_eq_ok_iff {value : Value} {displayName : Str} :
    parseDisplayName value = .ok displayName ↔
      ∃ name, value = .str name ∧ strip isSpace name ≠ [] ∧
        displayName = (strip isSpace name).take 255 := by
  cases value with
  | str name =>
    simp only [parseDisplayName, Value.str.injEq, exists_eq_left']
    split
    · rename_i hnil
      exact iff_of_false (by simp) fun h => h.1 hnil
    · rename_i hne
      rw [Except.ok.injEq, eq_comm]
      exact (and_iff_right hne).symm
  | _ => exact iff_of_false (by simp [parseDisplayName]) (by simp)

/-- A display name is kept when it is sent back unless the cut has left white space at its end. -/
theorem parseDisplayName_self_iff {name displayName : Str} (hne : strip isSpace name ≠ [])
    (h : displayName = (strip isSpace name).take 255) :
    parseDisplayName (.str displayName) = .ok displayName ↔
      ∀ c ∈ (strip isSpace name)[254]?, ¬ isSpace c := by
  subst h
  have htake : (strip isSpace name).take 255 ≠ [] := by
    rw [ne_eq, List.take_eq_nil_iff]
    exact fun hor => hor.elim (by decide) hne
  have hshort : (strip isSpace ((strip isSpace name).take 255)).length ≤ 255 := by
    have hle := (strip_sublist isSpace ((strip isSpace name).take 255)).length_le
    have hcut := List.length_take_le 255 (strip isSpace name)
    omega
  have hself : parseDisplayName (.str ((strip isSpace name).take 255)) =
      .ok ((strip isSpace name).take 255) ↔
      strip isSpace ((strip isSpace name).take 255) = (strip isSpace name).take 255 := by
    rw [parseDisplayName_eq_ok_iff]
    constructor
    · rintro ⟨name', hname', -, heq⟩
      rw [← Value.str.inj hname', List.take_of_length_le hshort] at heq
      exact heq.symm
    · intro heq
      refine ⟨_, rfl, strip_take_ne_nil htake, ?_⟩
      rw [List.take_of_length_le hshort, heq]
  have hlast : ∀ hne' : (strip isSpace name).take 255 ≠ [],
      (strip isSpace name)[254]?.or (strip isSpace name).getLast? =
        some (((strip isSpace name).take 255).getLast hne') := by
    intro hne'
    rw [← List.getLast?_eq_some_getLast hne', List.getLast?_take, if_neg (by decide)]
  rw [hself, strip_take_strip, List.rdropWhile_eq_self_iff]
  constructor
  · intro h c hc
    have hget := hlast htake
    rw [Option.mem_def.mp hc, Option.some_or, Option.some_inj] at hget
    rw [hget]
    exact h htake
  · intro h hne'
    have hget := hlast hne'
    rw [Option.or_eq_some_iff] at hget
    rcases hget with hget | ⟨-, hget⟩
    · exact h _ hget
    · exact not_of_getLast?_strip hget

theorem parseDeclared_eq_ok_iff {least : Int} {message : String} {value : Value} {n : Nat} :
    parseDeclared least message value = .ok n ↔
      ∃ i : Int, value = .int i ∧ least ≤ i ∧ n = i.toNat := by
  cases value with
  | int i =>
    simp only [parseDeclared, Value.int.injEq, exists_eq_left']
    split
    · rename_i hlt
      exact iff_of_false (by simp) fun h => by omega
    · rename_i hle
      rw [Except.ok.injEq, eq_comm]
      exact (and_iff_right (by omega)).symm
  | _ => exact iff_of_false (by simp [parseDeclared]) (by simp)

theorem parseDeclared_self {least : Int} {message : String} {value : Value} {n : Nat}
    (h : parseDeclared least message value = .ok n) :
    parseDeclared least message (.int n) = .ok n := by
  obtain ⟨i, -, hle, rfl⟩ := parseDeclared_eq_ok_iff.mp h
  exact parseDeclared_eq_ok_iff.mpr ⟨i.toNat, rfl, by omega, by omega⟩

/-! ### Sending the canonical request back -/

/-- The body is such that stripping it once is enough: the last component of its destination does
not end in white space, and neither does what is kept of its display name. -/
structure StrippedOnce (data : Value) : Prop where
  destination : ∀ text, data.get (ofString "dest_path") = .str text →
    ∀ part ∈ (serverParts text).getLast?, ∀ c ∈ part.getLast?, ¬ isSpace c
  displayName : ∀ name,
    (data.get (ofString "source")).get (ofString "display_name") = .str name →
    ∀ c ∈ (strip isSpace name)[254]?, ¬ isSpace c

/-- The values under the keys of the body that is sent back. -/
theorem body_get (request : CanonicalCreateRequest) :
    request.body.get (ofString "client_request_id") = .str (ofString request.clientRequestId) ∧
    request.body.get (ofString "target_devices") =
      .arr (request.targetDevices.map fun id => .str (ofString id)) ∧
    request.body.get? (ofString "mode") = some (.str (ofString request.mode.value)) ∧
    request.body.get (ofString "dest_path") = .str (ofString request.destPath) ∧
    request.body.get (ofString "source") = request.source.asDict := by
  simp [CanonicalCreateRequest.body, CanonicalCreateRequest.payloadFields, Value.get, Value.get?,
    List.lookup]

theorem asDict_get (source : CanonicalSource) :
    source.asDict.isObj ∧
    source.asDict.get (ofString "display_name") = .str (ofString source.displayName) ∧
    source.asDict.get (ofString "declared_file_count") = .int source.declaredFileCount ∧
    source.asDict.get (ofString "declared_total_bytes") = .int source.declaredTotalBytes := by
  simp [CanonicalSource.asDict, Value.get, Value.get?, Value.isObj, List.lookup]

theorem asString_inj {s t : Str} (hs : encodable s) (ht : encodable t)
    (h : asString s = asString t) : s = t := by
  rw [← ofString_asString hs, h, ofString_asString ht]

/-- The request is its own canonical form exactly when the body was to be stripped once. -/
theorem canonicalize_body_iff {data : Value} {request : CanonicalCreateRequest}
    (h : canonicalizeCreateRequest decimal sha256 data = .ok request) :
    canonicalizeCreateRequest decimal sha256 request.body = .ok request ↔ StrippedOnce data := by
  obtain ⟨id, hid, targets, htargets, mode, hmode, destPath, hdest, hobj, displayName, hname,
    count, hcount, bytes, hbytes, hseal⟩ := canonicalize_eq_ok_iff.mp h
  obtain ⟨hencodable, hdestEnc, hnameEnc, hrid, hrtargets, hrmode, hrdest, hrsource,
    hfingerprint⟩ := sealRequest_eq_ok_iff.mp hseal
  obtain ⟨text, htext, hcanonical⟩ := parseDestination_eq_ok_iff.mp hdest
  obtain ⟨name, hnameValue, hnameNe, hcut⟩ := parseDisplayName_eq_ok_iff.mp hname
  obtain ⟨hgetId, hgetTargets, hgetMode, hgetDest, hgetSource⟩ := body_get request
  obtain ⟨hobj', hgetName, hgetCount, hgetBytes⟩ := asDict_get request.source
  obtain ⟨targets', htargets', hsame⟩ := cleanedTargets_self htargets hencodable
  have hdestText : ofString request.destPath = destPath := by
    rw [hrdest, ofString_asString hdestEnc]
  have hnameText : ofString request.source.displayName = displayName := by
    rw [hrsource]
    exact ofString_asString hnameEnc
  -- all but the destination and the name is accepted as it is
  have hfixed : canonicalizeCreateRequest decimal sha256 request.body = .ok request ↔
      canonicalDestination destPath = .ok destPath ∧
        parseDisplayName (.str displayName) = .ok displayName := by
    rw [canonicalize_eq_ok_iff, hgetId, hgetTargets, hgetMode, hgetDest, hgetSource, hgetName,
      hgetCount, hgetBytes, hdestText, hnameText]
    constructor
    · rintro ⟨id', -, targets'', -, mode', -, destPath', hdest', -, displayName', hname', count', -,
        bytes', -, hseal'⟩
      obtain ⟨-, hdestEnc', hnameEnc', -, -, -, hrdest', hrsource', -⟩ :=
        sealRequest_eq_ok_iff.mp hseal'
      obtain rfl := asString_inj hdestEnc hdestEnc' (hrdest.symm.trans hrdest')
      obtain rfl := asString_inj hnameEnc hnameEnc'
        (congrArg CanonicalSource.displayName (hrsource.symm.trans hrsource'))
      obtain ⟨text', htext', hcanonical'⟩ := parseDestination_eq_ok_iff.mp hdest'
      rw [← Value.str.inj htext'] at hcanonical'
      exact ⟨hcanonical', hname'⟩
    · rintro ⟨hdest', hname'⟩
      refine ⟨id, ?_, targets', ?_, mode, ?_, destPath,
        parseDestination_eq_ok_iff.mpr ⟨_, rfl, hdest'⟩, hobj', displayName, hname', count, ?_,
        bytes, ?_, ?_⟩
      · rw [hrid]
        exact requireUuid_self hid
      · rw [hrtargets]
        exact htargets'
      · rw [hrmode]
        exact parseMode_self mode
      · rw [hrsource]
        exact parseDeclared_self hcount
      · rw [hrsource]
        exact parseDeclared_self hbytes
      · refine sealRequest_eq_ok_iff.mpr
          ⟨?_, hdestEnc, hnameEnc, hrid, ?_, hrmode, hrdest, hrsource, hfingerprint⟩
        · intro target htarget
          rw [hsame] at htarget
          obtain ⟨id', -, rfl⟩ := List.mem_map.mp htarget
          exact encodable_ofString id'
        · rw [hsame, sortedTargets_ofString (pairwise_sortedTargets targets.2.2 hencodable),
            hrtargets]
  rw [hfixed, canonicalDestination_self_iff hcanonical, parseDisplayName_self_iff hnameNe hcut]
  constructor
  · rintro ⟨hlast, hcutLast⟩
    refine ⟨fun text' htext' => ?_, fun name' hname' => ?_⟩
    · rw [← Value.str.inj (htext.symm.trans htext')]
      exact hlast
    · rw [← Value.str.inj (hnameValue.symm.trans hname')]
      exact hcutLast
  · intro honce
    exact ⟨honce.destination text htext, honce.displayName name hnameValue⟩

/-! ### What the fingerprint depends on -/

theorem PushMode.value_inj {mode mode' : PushMode} (h : mode.value = mode'.value) :
    mode = mode' := by
  cases mode <;> cases mode' <;> first | rfl | exact absurd h (by decide)

/-- The text that is hashed determines the payload. -/
theorem payloadText_inj {ids ids' : List String} {mode mode' : PushMode}
    {destPath destPath' : String}
    {source source' : CanonicalSource}
    (h : payloadText ids mode destPath source = payloadText ids' mode' destPath' source') :
    ids = ids' ∧ mode = mode' ∧ destPath = destPath' ∧ source = source' := by
  simp only [payloadText, object, members, List.append_assoc, List.cons_append, List.nil_append,
    List.cons.injEq, true_and] at h
  -- key, value, key, value: each is read back from the front of what remains
  obtain ⟨hdest, h⟩ := quote_append_inj (List.cons.inj (quote_append_inj h).2).2
  obtain ⟨hmode, h⟩ := quote_append_inj
    (List.cons.inj (quote_append_inj (List.cons.inj h).2).2).2
  have hsource := (List.cons.inj (List.cons.inj (quote_append_inj (List.cons.inj h).2).2).2).2
  obtain ⟨hcount, h⟩ := digits_append_inj (by decide) (by decide)
    (List.cons.inj (quote_append_inj hsource).2).2
  obtain ⟨hbytes, h⟩ := digits_append_inj (by decide) (by decide)
    (List.cons.inj (quote_append_inj (List.cons.inj h).2).2).2
  obtain ⟨hname, h⟩ := quote_append_inj
    (List.cons.inj (quote_append_inj (List.cons.inj h).2).2).2
  have hids := (List.cons.inj (quote_append_inj (List.cons.inj (List.cons.inj h).2).2).2).2
  obtain ⟨count, bytes, name⟩ := source
  obtain ⟨count', bytes', name'⟩ := source'
  dsimp only at hname hcount hbytes
  rw [hname, hcount, hbytes]
  exact ⟨(stringList_append_inj hids).1, PushMode.value_inj hmode, hdest, rfl⟩

theorem fingerprintPayload_inj {request request' : CanonicalCreateRequest}
    (h : request.fingerprintPayload = request'.fingerprintPayload) :
    request.targetDevices = request'.targetDevices ∧ request.mode = request'.mode ∧
      request.destPath = request'.destPath ∧ request.source = request'.source := by
  simp only [CanonicalCreateRequest.fingerprintPayload, CanonicalCreateRequest.payloadFields,
    CanonicalSource.asDict, Value.obj.injEq, List.cons.injEq, Prod.mk.injEq, true_and, and_true,
    Value.arr.injEq, Value.str.injEq, Value.int.injEq, ofString_inj, Nat.cast_inj] at h
  obtain ⟨htargets, hmode, hdest, hname, hcount, hbytes⟩ := h
  have hinj : Function.Injective fun id : String => Value.str (ofString id) :=
    fun s t hst => ofString_inj.mp (Value.str.inj hst)
  refine ⟨List.map_injective_iff.mpr hinj htargets, PushMode.value_inj hmode, hdest, ?_⟩
  rcases hsource : request.source with ⟨name, count, bytes⟩
  rcases hsource' : request'.source with ⟨name', count', bytes'⟩
  rw [hsource, hsource'] at hname hcount hbytes
  dsimp only at hname hcount hbytes
  rw [hname, hcount, hbytes]

/-- The fingerprints of two requests agree exactly when their payloads do. -/
theorem fingerprint_eq_iff (hsha : Function.Injective sha256) {data data' : Value}
    {request request' : CanonicalCreateRequest}
    (h : canonicalizeCreateRequest decimal sha256 data = .ok request)
    (h' : canonicalizeCreateRequest decimal sha256 data' = .ok request') :
    request'.fingerprint = request.fingerprint ↔
      request'.fingerprintPayload = request.fingerprintPayload := by
  have hhash : ∀ {data : Value} {request : CanonicalCreateRequest},
      canonicalizeCreateRequest decimal sha256 data = .ok request →
      request.fingerprint = sha256 (String.ofList (payloadText request.targetDevices request.mode
        request.destPath request.source)).toUTF8 := by
    intro data request h
    obtain ⟨id, -, targets, -, mode, -, destPath, -, -, name, -, count, -, bytes, -, hseal⟩ :=
      canonicalize_eq_ok_iff.mp h
    exact (sealRequest_eq_ok_iff.mp hseal).2.2.2.2.2.2.2.2
  constructor
  · intro hfingerprint
    rw [hhash h, hhash h'] at hfingerprint
    have htext := String.toByteArray_inj.mp (hsha hfingerprint)
    rw [← String.toList_inj, String.toList_ofList, String.toList_ofList] at htext
    obtain ⟨htargets, hmode, hdest, hsource⟩ := payloadText_inj htext
    rw [CanonicalCreateRequest.fingerprintPayload, CanonicalCreateRequest.fingerprintPayload,
      CanonicalCreateRequest.payloadFields, CanonicalCreateRequest.payloadFields, htargets, hmode,
      hdest, hsource]
  · intro hpayload
    obtain ⟨htargets, hmode, hdest, hsource⟩ := fingerprintPayload_inj hpayload
    rw [hhash h, hhash h', htargets, hmode, hdest, hsource]

/-! ### Other spellings of a body -/

/-- `data'` is `data` with another value under one key. -/
structure Replaced (key : String) (value value' data data' : Value) : Prop where
  old : data.get? (ofString key) = some value
  new : data'.get? (ofString key) = some value'
  others : ∀ key', key' ≠ ofString key → data'.get? key' = data.get? key'

theorem Replaced.get_new {key : String} {value value' data data' : Value}
    (h : Replaced key value value' data data') : data'.get (ofString key) = value' := by
  rw [Value.get, h.new, Option.getD_some]

theorem Replaced.get_old {key : String} {value value' data data' : Value}
    (h : Replaced key value value' data data') : data.get (ofString key) = value := by
  rw [Value.get, h.old, Option.getD_some]

theorem Replaced.get_other {key key' : String} {value value' data data' : Value}
    (h : Replaced key value value' data data') (hne : key' ≠ key) :
    data'.get? (ofString key') = data.get? (ofString key') ∧
      data'.get (ofString key') = data.get (ofString key') := by
  have heq := h.others (ofString key') fun hkey => hne (ofString_inj.mp hkey)
  exact ⟨heq, by rw [Value.get, Value.get, heq]⟩

/-- Another list of the same targets is accepted as the same request. -/
theorem canonicalize_permuted {data data' : Value} {request : CanonicalCreateRequest}
    {items items' : List Value} (h : canonicalizeCreateRequest decimal sha256 data = .ok request)
    (hreplaced : Replaced "target_devices" (.arr items) (.arr items') data data')
    (hperm : items.Perm items') :
    canonicalizeCreateRequest decimal sha256 data' = .ok request := by
  obtain ⟨id, hid, targets, htargets, mode, hmode, destPath, hdest, hobj, name, hname, count,
    hcount, bytes, hbytes, hseal⟩ := canonicalize_eq_ok_iff.mp h
  obtain ⟨hencodable, hdestEnc, hnameEnc, hrid, hrtargets, hrest⟩ := sealRequest_eq_ok_iff.mp hseal
  obtain ⟨items₀, hitems₀, hempty, hblank, hstripped⟩ := cleanedTargets_eq_ok htargets
  rw [hreplaced.get_old] at hitems₀
  obtain rfl := Value.arr.inj hitems₀
  have hperm' : (strippedItems items).Perm (strippedItems items') := hperm.filterMap _
  obtain ⟨targets', htargets', hsame⟩ := cleanedTargets_arr
    (by rw [List.isEmpty_iff] at hempty ⊢; exact fun hnil => hempty (hnil ▸ hperm).eq_nil)
    (by rwa [← hperm.any_eq])
    (hperm'.nodup_iff.mp (hstripped ▸ targets.2.2))
  rw [hstripped, ← hsame] at hperm'
  have hencodable' : ∀ target ∈ targets'.1, encodable target :=
    fun target htarget => hencodable target (hperm'.mem_iff.mpr htarget)
  -- two sorted lists of the same targets are equal
  have hsorted : sortedTargets targets.1 = sortedTargets targets'.1 := by
    refine List.Perm.eq_of_pairwise' (pairwise_sortedTargets targets.2.2 hencodable)
      (pairwise_sortedTargets targets'.2.2 hencodable') ?_
    exact ((sortedTargets_perm _).trans (hperm'.map _)).trans (sortedTargets_perm _).symm
  rw [canonicalize_eq_ok_iff, hreplaced.get_new, (hreplaced.get_other (by decide)).2,
    (hreplaced.get_other (by decide)).1, (hreplaced.get_other (by decide)).2,
    (hreplaced.get_other (by decide)).2]
  exact ⟨id, hid, targets', htargets', mode, hmode, destPath, hdest, hobj, name, hname, count,
    hcount, bytes, hbytes, sealRequest_eq_ok_iff.mpr
      ⟨hencodable', hdestEnc, hnameEnc, hrid, hsorted ▸ hrtargets, hrest⟩⟩

/-- Another text of the destination is accepted as the same request exactly when it has the same
canonical spelling. -/
theorem canonicalize_replaced_iff {data data' : Value} {request : CanonicalCreateRequest}
    {value value' : Str} (h : canonicalizeCreateRequest decimal sha256 data = .ok request)
    (hreplaced : Replaced "dest_path" (.str value) (.str value') data data') :
    ∃ destPath, canonicalDestination value = .ok destPath ∧ encodable destPath ∧
      request.destPath = asString destPath ∧
      (canonicalizeCreateRequest decimal sha256 data' = .ok request ↔
        canonicalDestination value' = .ok destPath) := by
  obtain ⟨id, hid, targets, htargets, mode, hmode, destPath, hdest, hobj, name, hname, count,
    hcount, bytes, hbytes, hseal⟩ := canonicalize_eq_ok_iff.mp h
  have hsealed := sealRequest_eq_ok_iff.mp hseal
  obtain ⟨text, htext, hcanonical⟩ := parseDestination_eq_ok_iff.mp hdest
  rw [hreplaced.get_old] at htext
  obtain rfl := Value.str.inj htext
  refine ⟨destPath, hcanonical, hsealed.2.1, hsealed.2.2.2.2.2.2.1, ?_⟩
  rw [canonicalize_eq_ok_iff, hreplaced.get_new, (hreplaced.get_other (by decide)).2,
    (hreplaced.get_other (by decide)).2, (hreplaced.get_other (by decide)).1,
    (hreplaced.get_other (by decide)).2]
  constructor
  · rintro ⟨id', -, targets', -, mode', -, destPath', hdest', -, name', -, count', -, bytes', -,
      hseal'⟩
    have hsealed' := sealRequest_eq_ok_iff.mp hseal'
    obtain rfl := asString_inj hsealed.2.1 hsealed'.2.1
      (hsealed.2.2.2.2.2.2.1.symm.trans hsealed'.2.2.2.2.2.2.1)
    obtain ⟨text', htext', hcanonical'⟩ := parseDestination_eq_ok_iff.mp hdest'
    rwa [← Value.str.inj htext'] at hcanonical'
  · intro hcanonical'
    exact ⟨id, hid, targets, htargets, mode, hmode, destPath,
      parseDestination_eq_ok_iff.mpr ⟨_, rfl, hcanonical'⟩, hobj, name, hname, count, hcount, bytes,
      hbytes, hseal⟩

/-- What is accepted with the fingerprint of another request, under the same request id, is that
request. -/
theorem eq_of_fingerprint_eq (hsha : Function.Injective sha256) {data data' : Value}
    {request request' : CanonicalCreateRequest}
    (h : canonicalizeCreateRequest decimal sha256 data = .ok request)
    (h' : canonicalizeCreateRequest decimal sha256 data' = .ok request')
    (hid : data'.get (ofString "client_request_id") = data.get (ofString "client_request_id"))
    (hfingerprint : request'.fingerprint = request.fingerprint) : request' = request := by
  have hids : request'.clientRequestId = request.clientRequestId := by
    obtain ⟨id, hrid, targets, -, mode, -, destPath, -, -, name, -, count, -, bytes, -, hseal⟩ :=
      canonicalize_eq_ok_iff.mp h
    obtain ⟨id', hrid', targets', -, mode', -, destPath', -, -, name', -, count', -, bytes', -,
      hseal'⟩ := canonicalize_eq_ok_iff.mp h'
    rw [hid, hrid, Except.ok.injEq] at hrid'
    rw [(sealRequest_eq_ok_iff.mp hseal).2.2.2.1, (sealRequest_eq_ok_iff.mp hseal').2.2.2.1, hrid']
  obtain ⟨htargets, hmode, hdest, hsource⟩ :=
    fingerprintPayload_inj ((fingerprint_eq_iff hsha h h').mp hfingerprint)
  obtain ⟨id, ids, mode, destPath, source, fingerprint⟩ := request
  obtain ⟨id', ids', mode', destPath', source', fingerprint'⟩ := request'
  dsimp only at hids htargets hmode hdest hsource hfingerprint
  subst hids htargets hmode hdest hsource hfingerprint
  rfl

/-- For every body that is accepted: the canonical request, sent back, is accepted as itself
exactly when the body was to be stripped once; the order of the targets and the name of the shared
storage do not matter; separators and dots that are put into the destination do not matter exactly
when they do not make it begin with two slashes; and the fingerprint stands for the payload. -/
theorem canonicalize_normal_form (hsha : Function.Injective sha256) {data : Value}
    {request : CanonicalCreateRequest}
    (h : canonicalizeCreateRequest decimal sha256 data = .ok request) :
    (canonicalizeCreateRequest decimal sha256 request.body = .ok request ↔ StrippedOnce data) ∧
    (∀ data' items items', Replaced "target_devices" (.arr items) (.arr items') data data' →
      items.Perm items' →
        ∃ request', canonicalizeCreateRequest decimal sha256 data' = .ok request' ∧
        request'.fingerprint = request.fingerprint) ∧
    (∀ data' blanks rest, (∀ c ∈ blanks, isSpace c) →
      Replaced "dest_path" (.str (blanks ++ sdcard ++ rest))
        (.str (blanks ++ storageEmulated ++ rest)) data data' →
      ∃ request', canonicalizeCreateRequest decimal sha256 data' = .ok request' ∧
        request'.fingerprint = request.fingerprint) ∧
    (∀ data' value value', Replaced "dest_path" (.str value) (.str value') data data' →
      Padded value value' →
      ((∃ request', canonicalizeCreateRequest decimal sha256 data' = .ok request' ∧
        request'.fingerprint = request.fingerprint) ↔
          initialSlashes (slashes (strip isSpace value')) ≠ 2)) ∧
    (∀ data' request', canonicalizeCreateRequest decimal sha256 data' = .ok request' →
      (request'.fingerprint = request.fingerprint ↔
        request'.fingerprintPayload = request.fingerprintPayload)) := by
  refine ⟨canonicalize_body_iff h, ?_, ?_, ?_, ?_⟩
  · intro data' items items' hreplaced hperm
    exact ⟨request, canonicalize_permuted h hreplaced hperm, rfl⟩
  · intro data' blanks rest hblanks hreplaced
    obtain ⟨destPath, hcanonical, -, -, hiff⟩ := canonicalize_replaced_iff h hreplaced
    exact ⟨request, hiff.mpr (canonicalDestination_alias hblanks hcanonical), rfl⟩
  · intro data' value value' hreplaced hpadded
    obtain ⟨destPath, hcanonical, -, -, hiff⟩ := canonicalize_replaced_iff h hreplaced
    have hpad := canonicalDestination_padded_iff hcanonical hpadded
    rw [serverText] at hpad
    rw [← hpad, ← hiff]
    constructor
    · rintro ⟨request', h', hfingerprint⟩
      rwa [eq_of_fingerprint_eq hsha h h' (hreplaced.get_other (by decide)).2 hfingerprint] at h'
    · intro h'
      exact ⟨request, h', rfl⟩
  · intro data' request' h'
    exact fingerprint_eq_iff hsha h h'

end Parts

/-! ### Two bodies -/

/-- A body with a destination and a display name. -/
def sampleBody (destPath displayName : String) : Value :=
  .obj [(ofString "client_request_id", .str (ofString "6F9619FF-8B86-4011-B42D-00C04FC964FF")),
    (ofString "target_devices", .arr [.str (ofString " quest-1 ")]),
    (ofString "mode", .str (ofString "Sync")),
    (ofString "dest_path", .str (ofString destPath)),
    (ofString "source", .obj [(ofString "display_name", .str (ofString displayName)),
      (ofString "declared_file_count", .int 2), (ofString "declared_total_bytes", .int 10)])]

/-- An injective stand-in for the hash that has its value at one payload. -/
def sampleDigest (bytes : ByteArray) : String :=
  if bytes =
    (String.ofList (payloadText ["quest-1"] .sync "/sdcard/apps" ⟨"apps", 2, 10⟩)).toUTF8 then
    "abf4a803af14666b743642865025d243c12648259241ee87fb378ae554bfc2f5"
  else String.ofList ('x' :: bytes.data.toList.map fun b => Char.ofNat b.toNat)

theorem sampleDigest_injective : Function.Injective sampleDigest := by
  have hother : ∀ l : List Char,
      "abf4a803af14666b743642865025d243c12648259241ee87fb378ae554bfc2f5" ≠
        String.ofList ('x' :: l) := by
    intro l heq
    have hhead := congrArg (fun s : String => s.toList.head?) heq
    simp at hhead
  have hchar : Function.Injective fun b : UInt8 => Char.ofNat b.toNat := by
    intro b b' heq
    have hvalid : ∀ c : UInt8, (Char.ofNat c.toNat).toNat = c.toNat := by
      intro c
      have hlt := c.toNat_lt
      rw [Char.toNat_ofNat, if_pos (.inl (by omega))]
    have hnat := congrArg Char.toNat heq
    simp only [hvalid] at hnat
    exact UInt8.toNat_inj.mp hnat
  intro bytes bytes' h
  rw [sampleDigest, sampleDigest] at h
  split_ifs at h with hsample hsample' hsample'
  · rw [hsample, hsample']
  · exact absurd h (hother _)
  · exact absurd h.symm (hother _)
  · rw [← String.toList_inj, String.toList_ofList, String.toList_ofList, List.cons.injEq] at h
    have hlist := List.map_injective_iff.mpr hchar h.2
    exact ByteArray.ext (Array.toList_inj.mp hlist)

/-- Is the result of a check a value? -/
def isOk {α : Type} (result : Except Refused α) : Bool :=
  match result with
  | .ok _ => true
  | .error _ => false

theorem exists_of_isOk {α : Type} {result : Except Refused α} (h : isOk result) :
    ∃ a, result = .ok a := by
  cases result with
  | ok a => exact ⟨a, rfl⟩
  | error _ => exact Bool.noConfusion h

theorem canonicalize_normal_form_apps :
    ∃ request, canonicalizeCreateRequest (fun _ => none) sampleDigest
        (sampleBody " /sdcard//apps/ " "apps") = .ok request ∧
      canonicalizeCreateRequest (fun _ => none) sampleDigest request.body = .ok request := by
  obtain ⟨request, h⟩ : ∃ request, canonicalizeCreateRequest (fun _ => none) sampleDigest
      (sampleBody " /sdcard//apps/ " "apps") = .ok request := exists_of_isOk (by decide +kernel)
  refine ⟨request, h, (canonicalize_normal_form sampleDigest_injective h).1.mpr ?_⟩
  have hdest : (sampleBody " /sdcard//apps/ " "apps").get (ofString "dest_path") =
      .str (ofString " /sdcard//apps/ ") := by
    simp [sampleBody, Value.get, Value.get?, List.lookup]
  have hname : ((sampleBody " /sdcard//apps/ " "apps").get (ofString "source")).get
      (ofString "display_name") = .str (ofString "apps") := by
    simp [sampleBody, Value.get, Value.get?, List.lookup]
  have hlast : (serverParts (ofString " /sdcard//apps/ ")).getLast? = some (ofString "apps") := by
    decide +kernel
  have hnone : (strip isSpace (ofString "apps"))[254]? = none := by decide +kernel
  refine ⟨?_, ?_⟩
  · intro text htext part hpart c hc
    rw [← Value.str.inj (hdest.symm.trans htext), hlast] at hpart
    rw [← Option.some.inj hpart] at hc
    have hs : (ofString "apps").getLast? = some 115 := by decide
    rw [← Option.some.inj (hs.symm.trans hc)]
    decide
  · intro name hname' c hc
    rw [← Value.str.inj (hname.symm.trans hname'), hnone] at hc
    exact absurd hc (by simp)

/-- White space that a separator has kept from being stripped is stripped when the canonical
request is sent back. -/
theorem canonicalize_trims_twice :
    ∃ request, canonicalizeCreateRequest (fun _ => none) sampleDigest
        (sampleBody "/sdcard/apps /" "apps") = .ok request ∧
      request.destPath = "/sdcard/apps " ∧
      canonicalizeCreateRequest (fun _ => none) sampleDigest request.body ≠ .ok request := by
  obtain ⟨request, h⟩ : ∃ request, canonicalizeCreateRequest (fun _ => none) sampleDigest
      (sampleBody "/sdcard/apps /" "apps") = .ok request := exists_of_isOk (by decide +kernel)
  have hget : (sampleBody "/sdcard/apps /" "apps").get (ofString "dest_path") =
      .str (ofString "/sdcard/apps /") := by
    simp [sampleBody, Value.get, Value.get?, List.lookup]
  refine ⟨request, h, ?_, ?_⟩
  · obtain ⟨id, -, targets, -, mode, -, destPath, hdest, -, name, -, count, -, bytes, -, hseal⟩ :=
      canonicalize_eq_ok_iff.mp h
    obtain ⟨text, htext, hcanonical⟩ := parseDestination_eq_ok_iff.mp hdest
    have hresult : canonicalDestination (ofString "/sdcard/apps /") =
        .ok (ofString "/sdcard/apps ") := by decide +kernel
    rw [← Value.str.inj (hget.symm.trans htext), hresult, Except.ok.injEq] at hcanonical
    rw [(sealRequest_eq_ok_iff.mp hseal).2.2.2.2.2.2.1, ← hcanonical, asString_ofString]
  · rw [ne_eq, canonicalize_body_iff h]
    intro honce
    have hlast : (serverParts (ofString "/sdcard/apps /")).getLast? = some (ofString "apps ") := by
      decide +kernel
    have hblank : (ofString "apps ").getLast? = some 32 := by decide
    exact honce.destination _ hget _ hlast _ hblank (by decide)

end StylyMdm.PushJobs
