import StylyMdm.Files.Agreement
import StylyMdm.Files.Worker

/-!
# From the upload to the destination

A bundle goes a long way: `upload_handler` receives and zips it, the command carries the size and
the SHA-256 of the archive, the client downloads what some server sends it, extracts it and applies
it.

* `execute_delivers`: the destination is touched only when the download has the declared size and
  digest. So either it is another byte string with the digest of the published archive, or the
  client applies the uploaded files, and a success means that all of them have arrived.
* `execute_succeeds_iff`: when the response brings the archive unharmed, exactly what has to hold on
  the device for the bundle to arrive where the server meant it to go.

No assumption is made about SHA-256: a `Collision` is a case of the first result, and the second one
is about responses that bring the archive (`Serves`), whatever its digest.

The proofs follow the execution from its end: `applyTo_spec` and `Unzipped.delivered` are the
results on synchronisation at the disk of the device, `extract_artifact` is the round trip of the
archive, `download_eq_ok` what a download that is accepted has been. `Reaches` is the point between
them, an execution that has got as far as the destination, and `reaches_or_fails` says that there is
no third way.
-/

namespace StylyMdm.Files

open Text Sha2 Disk

/-! ### The digest -/

theorem toLower_hexDigits (k n : Nat) : (hexDigits k n).map Char.toLower = hexDigits k n := by
  have hdigit : ∀ d < 16, (Nat.digitChar d).toLower = Nat.digitChar d := by decide
  induction k generalizing n with
  | zero => rfl
  | succ k ih =>
    rw [hexDigits, List.map_append, ih, List.map_singleton, hdigit _ (Nat.mod_lt _ (by omega))]

/-- A digest is written in lower case. -/
theorem toLower_hexDigest (bytes : Bytes) : (hexDigest bytes).toLower = hexDigest bytes := by
  have hlower : (hexDigest bytes).toLower.toList = (hexDigest bytes).toList.map Char.toLower :=
    String.toList_map
  rw [← String.toList_inj, hlower, hexDigest, String.toList_ofList, List.map_flatMap]
  simp only [toLower_hexDigits]

/-- Two byte strings that SHA-256 does not tell apart. -/
def Collision (bytes artifact : Bytes) : Prop :=
  bytes ≠ artifact ∧ hexDigest bytes = hexDigest artifact

/-! ### The download -/

section Download

variable {device : Device} {command : Client.Command} {bytes written : Bytes} {reads : List Bytes}
  {expectedSize : Option Int} {received : Nat}

theorem readBody_eq_ok (h : readBody expectedSize received written reads = .ok bytes) :
    bytes = written ++ reads.flatten := by
  induction reads generalizing received written with
  | nil =>
    rw [readBody, Except.ok.injEq] at h
    rw [List.flatten_nil, List.append_nil, h]
  | cons read reads ih =>
    rw [readBody] at h
    split_ifs at h
    rw [ih h, List.flatten_cons, List.append_assoc]

/-- A body that is not longer than declared is read to its end. -/
theorem readBody_of_le (hmax : received + reads.flatten.length ≤ maxLong)
    (hsize : ∀ size ∈ expectedSize, ((received + reads.flatten.length : Nat) : Int) ≤ size) :
    readBody expectedSize received written reads = .ok (written ++ reads.flatten) := by
  induction reads generalizing received written with
  | nil => rw [readBody, List.flatten_nil, List.append_nil]
  | cons read reads ih =>
    rw [List.flatten_cons, List.length_append] at hmax hsize
    have hfits : ¬(0 < read.length ∧ maxLong - read.length < received) := by omega
    have hshort : ¬ expectedSize.any fun size => size < ((received + read.length : Nat) : Int) := by
      rw [Option.any_eq_true]
      rintro ⟨size, hmem, hlt⟩
      have hle := hsize size hmem
      rw [decide_eq_true_iff] at hlt
      omega
    rw [readBody, if_neg hfits, if_neg hshort, ih (by omega) fun size hmem => ?_,
      List.flatten_cons, List.append_assoc]
    have hle := hsize size hmem
    omega

/-- The identity of a command with the size and the digest of the artifact. -/
structure Names (command : Client.Command) (artifact : Bytes) : Prop where
  size : command.artifactSize = some (artifact.length : Int)
  sha256 : command.artifactSha256 = some (hexDigest artifact)

variable {artifact : Bytes}

theorem checkIdentity_eq_ok_iff (hnames : Names command artifact) :
    checkIdentity command bytes = .ok () ↔
      bytes.length = artifact.length ∧ hexDigest bytes = hexDigest artifact := by
  simp only [checkIdentity, hnames.size, hnames.sha256, Option.any_some, decide_eq_true_iff,
    toLower_hexDigest]
  by_cases hlength : bytes.length = artifact.length
  · by_cases hdigest : hexDigest bytes = hexDigest artifact <;> simp [hlength, hdigest]
  · simp [hlength]

/-- What the response must be for the artifact to be downloaded. -/
structure Serves (device : Device) (url : String) (bytes : Bytes) : Prop where
  response : ∃ code body, device.response url = .status code body ∧ 200 ≤ code ∧ code ≤ 299 ∧
    body.failure = none ∧ body.reads.flatten = bytes
  move : device.moveFailure = none

theorem download_eq_ok (hnames : Names command artifact) (h : device.download command = .ok bytes) :
    Serves device command.artifactUrl bytes ∧ bytes.length = artifact.length ∧
      hexDigest bytes = hexDigest artifact := by
  rw [Device.download] at h
  split at h
  · exact absurd h (by simp)
  · exact absurd h (by simp)
  · rename_i code body hresponse
    split_ifs at h with hcode
    obtain ⟨received, hread, h⟩ := Except.bind_eq_ok.mp h
    split at h
    · exact absurd h (by simp)
    · rename_i hfailure
      obtain ⟨_, hcheck, h⟩ := Except.bind_eq_ok.mp h
      split at h
      · exact absurd h (by simp)
      · rename_i hmove
        rw [Except.ok.injEq] at h
        subst h
        have hflatten : body.reads.flatten = received := (readBody_eq_ok hread).symm
        exact ⟨⟨⟨code, body, hresponse, by omega, by omega, hfailure, hflatten⟩, hmove⟩,
          (checkIdentity_eq_ok_iff hnames).mp hcheck⟩

theorem download_of_serves (hnames : Names command artifact) (hmax : artifact.length ≤ maxLong)
    (h : Serves device command.artifactUrl artifact) : device.download command = .ok artifact := by
  obtain ⟨⟨code, body, hresponse, hlow, hhigh, hfailure, hflatten⟩, hmove⟩ := h
  have hread : readBody command.artifactSize 0 [] body.reads = .ok artifact := by
    rw [← hflatten] at hmax hnames ⊢
    refine readBody_of_le (by omega) fun size hmem => ?_
    rw [hnames.size, Option.mem_some_iff] at hmem
    omega
  have hcheck : checkIdentity command artifact = .ok () :=
    (checkIdentity_eq_ok_iff hnames).mpr ⟨rfl, rfl⟩
  rw [Device.download, hresponse]
  simp only [if_neg (show ¬(code < 200 ∨ 299 < code) by omega), hread, hfailure, hcheck, hmove,
    bind, Except.bind]

end Download

/-! ### Applying the bundle -/

/-- A sync counts the files of the destination that it deletes. -/
theorem deleted_of_apply {α β : Type*} [DecidableEq α] {order : Listing α}
    {staging dest t : Disk (id : α → α) β} {r : SyncResult}
    (h : apply order staging dest true = .ok (t, r)) :
    r.deleted = ((filePaths dest).filter fun path => !staging.isFile path).length := by
  obtain ⟨copied, hcopied, happlied⟩ := apply_spec h
  rw [happlied.deleted rfl]
  refine List.Perm.length_eq ((List.perm_ext_iff_of_nodup (nodup_filePaths.filter _)
    (nodup_filePaths.filter _)).mpr fun path => ?_)
  rw [List.mem_filter, List.mem_filter, decide_eq_true_iff, Bool.not_eq_true',
    mem_filePaths_iff_isFile, mem_filePaths_iff_isFile, mem_filePaths_iff_isFile,
    Bool.eq_false_iff]
  refine and_congr_left fun hother => ?_
  rw [isFile_iff_isSome_read, isFile_iff_isSome_read, hcopied.read_other hother]

/-- What the destination should be after the bundle was applied, and what should be reported. -/
structure Delivered (parts : List Part) (deleteExtras : Bool) (dest t : Disk (id : Str → Str) Bytes)
    (r : SyncResult) : Prop where
  staged : ∀ file ∈ bundleFiles parts, t.read file.1 = some file.2
  others : ∀ path, path ∉ (bundleFiles parts).map Prod.fst →
    t.read path = if deleteExtras then none else dest.read path
  counted : r.added + r.updated = (bundleFiles parts).length
  updated : r.updated = ((bundleFiles parts).filter fun file => dest.isFile file.1).length
  deleted : r.deleted = if deleteExtras then
    ((filePaths dest).filter fun path => path ∉ (bundleFiles parts).map Prod.fst).length else 0

section Apply

variable {parts : List Part} {staging : Tree} {order : Listing Str} {deleteExtras : Bool}
  {dest t : Disk (id : Str → Str) Bytes} {r : SyncResult}

/-- The extracted tree has the files of the bundle. -/
def Unzipped (parts : List Part) (staging : Tree) : Prop :=
  ∀ path content, staging.read path = some content ↔ (path, content) ∈ bundleFiles parts

theorem Received.nodup_bundle {upload : Upload} (h : Received upload (uploadedFiles parts)) :
    ((bundleFiles parts).map Prod.fst).Nodup := by
  have hnodup : ((uploadedFiles parts).map Prod.fst).Nodup := h.tree ▸ upload.uploadRoot.nodup
  rw [bundleFiles]
  split_ifs with hshares
  · rw [List.map_map]
    refine List.Nodup.map_on ?_ (List.Nodup.of_map _ hnodup)
    intro file hfile file' hfile' hdrop
    refine List.inj_on_of_nodup_map hnodup hfile hfile' ?_
    -- the paths share their first component
    have hlength := (hshares file hfile).1
    have hlength' := (hshares file' hfile').1
    obtain ⟨part, rest, hpath⟩ := List.exists_cons_of_length_pos (l := file.1) (by omega)
    obtain ⟨part', rest', hpath'⟩ := List.exists_cons_of_length_pos (l := file'.1) (by omega)
    have hhead := (hshares file hfile).2 file' hfile'
    simp only [Function.comp_apply, hpath, hpath', List.head?_cons, Option.some.injEq,
      List.drop_succ_cons, List.drop_zero] at hhead hdrop
    rw [hpath, hpath', hhead, hdrop]
  · exact hnodup

theorem Unzipped.isFile_iff (h : Unzipped parts staging) {path : List Str} :
    staging.toDisk.isFile path ↔ path ∈ (bundleFiles parts).map Prod.fst := by
  rw [isFile_iff_isSome_read, FileTree.read_toDisk, Option.isSome_iff_exists, List.mem_map]
  constructor
  · rintro ⟨content, hread⟩
    exact ⟨_, (h path content).mp hread, rfl⟩
  · rintro ⟨file, hfile, rfl⟩
    exact ⟨file.2, (h _ _).mpr hfile⟩

theorem Unzipped.filePaths_perm (h : Unzipped parts staging)
    (hnodup : ((bundleFiles parts).map Prod.fst).Nodup) :
    (filePaths staging.toDisk).Perm ((bundleFiles parts).map Prod.fst) :=
  (List.perm_ext_iff_of_nodup nodup_filePaths hnodup).mpr fun _ =>
    mem_filePaths_iff_isFile.trans h.isFile_iff

theorem Unzipped.clear_iff (h : Unzipped parts staging) :
    Clear staging.toDisk dest ↔ ∀ file ∈ bundleFiles parts, Unobstructed dest file.1 := by
  constructor
  · intro hclear file hfile
    exact hclear _ (mem_filePaths_iff_isFile.mpr (h.isFile_iff.mpr (List.mem_map_of_mem hfile)))
  · intro hclear path hpath
    obtain ⟨file, hfile, rfl⟩ :=
      List.mem_map.mp (h.isFile_iff.mp (mem_filePaths_iff_isFile.mp hpath))
    exact hclear file hfile

/-- A bundle that is applied is delivered. -/
theorem Unzipped.delivered (h : Unzipped parts staging)
    (hnodup : ((bundleFiles parts).map Prod.fst).Nodup)
    (happly : apply order staging.toDisk dest deleteExtras = .ok (t, r)) :
    Delivered parts deleteExtras dest t r := by
  obtain ⟨copied, hcopied, happlied⟩ := apply_spec happly
  have hperm := h.filePaths_perm hnodup
  have hother : ∀ path, path ∉ (bundleFiles parts).map Prod.fst →
      copied.read path = dest.read path :=
    fun path hpath => hcopied.read_other fun hfile => hpath (h.isFile_iff.mp hfile)
  have hstaged : ∀ file ∈ bundleFiles parts, copied.read file.1 = some file.2 :=
    fun file hfile => hcopied.read_staged (by rw [FileTree.read_toDisk, (h _ _).mpr hfile])
  have hcounted : r.added + r.updated = (bundleFiles parts).length := by
    rw [happlied.counted, hperm.length_eq, List.length_map]
  have hupdated : r.updated =
    ((bundleFiles parts).filter fun file => dest.isFile file.1).length := by
    rw [happlied.updated, (hperm.filter _).length_eq, List.filter_map, List.length_map]
    rfl
  cases deleteExtras with
  | false =>
    obtain ⟨rfl, hdeleted⟩ := happlied.kept rfl
    exact ⟨hstaged, hother, hcounted, hupdated, hdeleted⟩
  | true =>
    have hread : ∀ path, t.read path = staging.read path := fun path => by
      rw [read_of_apply happly, FileTree.read_toDisk]
    refine ⟨fun file hfile => ?_, fun path hpath => ?_, hcounted, hupdated, ?_⟩
    · rw [hread, (h _ _).mpr hfile]
    · rw [hread, if_pos rfl, Option.eq_none_iff_forall_ne_some]
      exact fun content hcontent => hpath (List.mem_map_of_mem ((h path content).mp hcontent))
    · have hsame : ∀ path, (!staging.toDisk.isFile path) =
          decide (path ∉ (bundleFiles parts).map Prod.fst) := by
        intro path
        rw [Bool.eq_iff_iff, decide_eq_true_iff, Bool.not_eq_true', Bool.eq_false_iff]
        exact not_congr h.isFile_iff
      rw [deleted_of_apply happly, if_pos rfl]
      simp only [hsame]

end Apply

/-! ### The execution -/

section Execute

variable {device : Device} {command : Client.Command} {parts : List Part} {entries : List Entry}
  {artifact bytes : Bytes} {staging : Tree} {target : List Str}

open PushFilesWorker

/-- The published archive is extracted to the files of the bundle. -/
theorem extract_artifact (hupload : uploadHandler parts = .ok entries)
    (hartifact : device.openZip artifact = some entries)
      (hstaging : device.stagingRecreated = .done) :
    ∃ staging, extract {} device artifact = .ok staging ∧ Unzipped parts staging ∧
      ((bundleFiles parts).map Prod.fst).Nodup := by
  obtain ⟨upload, hreceived, hne, hpublished⟩ := uploadHandler_received hupload
  obtain ⟨staging, hextract, hread⟩ := hreceived.published hne hpublished device.streams device.work
  refine ⟨staging, ?_, hread, hreceived.nodup_bundle⟩
  rw [validateAndExtract] at hextract
  rw [extract, hstaging, hartifact]
  simp only [Recreation.run, hextract, bind, Except.bind, Except.mapError]

/-- An extraction has found the staging directory new. -/
theorem recreated_of_extract {worker : PushFilesWorker}
    (h : worker.extract device bytes = .ok staging) : device.stagingRecreated = .done := by
  rw [extract] at h
  obtain ⟨_, hrun, -⟩ := Except.bind_eq_ok.mp h
  rcases hrecreated : device.stagingRecreated
  · rfl
  · rw [hrecreated] at hrun
    exact absurd hrun (by simp [Recreation.run])
  · rw [hrecreated] at hrun
    exact absurd hrun (by simp [Recreation.run])

theorem fetch_eq_ok_iff :
    device.fetch command = .ok bytes ↔
      device.workRecreated = .done ∧ device.download command = .ok bytes := by
  rw [Device.fetch]
  cases device.workRecreated <;> simp [Recreation.run, bind, Except.bind]

/-- An execution that gets as far as the destination. -/
structure Reaches (device : Device) (command : Client.Command) (bytes : Bytes) (staging : Tree)
    (target : List Str) : Prop where
  access : device.hasExternalStorageAccess = true
  fetched : device.fetch command = .ok bytes
  extracted : extract {} device bytes = .ok staging
  destination : validateDestinationAgainstRoot device.fs device.externalStorageDirectory
    (ofString command.destPath) = .ok target

theorem Reaches.execute_eq (h : Reaches device command bytes staging target) :
    execute {} device command =
      { result := (applyTo device command staging target).1
        callbacks := [.transferComplete bytes.length, .validated, .applying]
        effect := (applyTo device command staging target).2 } := by
  rw [execute, h.access]
  simp only [h.fetched, h.extracted, h.destination, Bool.not_true, Bool.false_eq_true, if_false]

/-- An execution that does not get as far has failed and left everything as it was. -/
theorem reaches_or_fails (device : Device) (command : Client.Command) :
    (∃ bytes staging target, Reaches device command bytes staging target) ∨
      (∃ thrown, (execute {} device command).result = .error thrown) ∧
        (execute {} device command).effect = .untouched := by
  by_cases haccess : device.hasExternalStorageAccess = true
  · rcases hfetch : device.fetch command with thrown | bytes
    · exact .inr (by rw [execute, haccess]; simp [hfetch])
    · rcases hextract : extract {} device bytes with thrown | staging
      · exact .inr (by rw [execute, haccess]; simp [hfetch, hextract])
      · rcases hdest : validateDestinationAgainstRoot device.fs device.externalStorageDirectory
          (ofString command.destPath) with refusal | target
        · exact .inr (by rw [execute, haccess]; simp [hfetch, hextract, hdest])
        · exact .inl ⟨bytes, staging, target, haccess, hfetch, hextract, hdest⟩
  · rw [Bool.not_eq_true] at haccess
    exact .inr (by rw [execute, haccess]; simp)

/-- What `BundleSync.apply` makes of the extracted bundle. -/
theorem applyTo_spec (hunzipped : Unzipped parts staging)
    (hnodup : ((bundleFiles parts).map Prod.fst).Nodup)
    (htouched : (∃ r, (applyTo device command staging target).1 = .ok r) ∨
      (applyTo device command staging target).2 ≠ .untouched) :
    ∃ dest, (device.storage target).opened = .ok dest ∧
      ((∃ t r, applyTo device command staging target = (.ok r, .applied target t) ∧
          Delivered parts command.deleteExtras dest t r) ∨
        ∃ thrown, applyTo device command staging target = (.error thrown, .interrupted target) ∧
          ∃ file ∈ bundleFiles parts, ¬Unobstructed dest file.1) := by
  rw [applyTo] at htouched ⊢
  rcases hopened : (device.storage target).opened with thrown | dest
  · simp [hopened] at htouched
  · refine ⟨dest, rfl, ?_⟩
    rcases happly : apply device.order staging.toDisk dest command.deleteExtras with error | ⟨t, r⟩
    · refine .inr ⟨device.notApplied error, by simp only [happly], ?_⟩
      -- `apply` only fails when something is in the way
      have hnot : ¬Clear staging.toDisk dest := by
        rw [← apply_isOk_iff device.order staging.toDisk dest command.deleteExtras]
        rintro ⟨t, r, hok⟩
        exact absurd (happly.symm.trans hok) (by simp)
      rw [hunzipped.clear_iff] at hnot
      push Not at hnot
      exact hnot
    · exact .inl ⟨t, r, by simp only [happly], hunzipped.delivered hnodup happly⟩

/-- An artifact that is served comes as far as the destination. -/
theorem reaches_of_serves (hupload : uploadHandler parts = .ok entries)
    (hartifact : device.openZip artifact = some entries) (hnames : Names command artifact)
    (hmax : artifact.length ≤ maxLong) (haccess : device.hasExternalStorageAccess = true)
    (hwork : device.workRecreated = .done) (hstaging : device.stagingRecreated = .done)
    (hserves : Serves device command.artifactUrl artifact)
    (hdestination : validateDestinationAgainstRoot device.fs device.externalStorageDirectory
      (ofString command.destPath) = .ok target) :
    ∃ staging, Reaches device command artifact staging target ∧ Unzipped parts staging ∧
      ((bundleFiles parts).map Prod.fst).Nodup := by
  obtain ⟨staging, hextract, hunzipped, hnodup⟩ := extract_artifact hupload hartifact hstaging
  have hfetch : device.fetch command = .ok artifact :=
    fetch_eq_ok_iff.mpr ⟨hwork, download_of_serves hnames hmax hserves⟩
  exact ⟨staging, ⟨haccess, hfetch, hextract, hdestination⟩, hunzipped, hnodup⟩

/-- When nothing is in the way there, the bundle is delivered. -/
theorem Reaches.succeeds {dest : Disk (id : Str → Str) Bytes}
    (h : Reaches device command bytes staging target) (hunzipped : Unzipped parts staging)
    (hnodup : ((bundleFiles parts).map Prod.fst).Nodup)
    (hopened : (device.storage target).opened = .ok dest)
    (hclear : ∀ file ∈ bundleFiles parts, Unobstructed dest file.1) :
    ∃ t r, (execute {} device command).result = .ok r ∧
      (execute {} device command).effect = .applied target t ∧
      Delivered parts command.deleteExtras dest t r := by
  obtain ⟨t, r, happly⟩ := (apply_isOk_iff device.order staging.toDisk dest
    command.deleteExtras).mpr (hunzipped.clear_iff.mpr hclear)
  have heq : applyTo device command staging target = (.ok r, .applied target t) := by
    rw [applyTo, hopened]
    simp only [happly]
  refine ⟨t, r, ?_, ?_, hunzipped.delivered hnodup happly⟩
  · rw [h.execute_eq, heq]
  · rw [h.execute_eq, heq]

/-- **What reaches the destination.** An execution that succeeds, or only touches the destination,
has downloaded bytes with the size and the digest of the published archive. If they are the archive,
the files of the bundle are applied: a success means that they are all there, and a failure that
something was in the way of one of them. -/
theorem execute_delivers (hupload : uploadHandler parts = .ok entries)
    (hartifact : device.openZip artifact = some entries) (hnames : Names command artifact)
    (htouched : (∃ r, (execute {} device command).result = .ok r) ∨
      (execute {} device command).effect ≠ .untouched) :
    ∃ bytes target, Serves device command.artifactUrl bytes ∧
      validateDestinationAgainstRoot device.fs device.externalStorageDirectory
        (ofString command.destPath) = .ok target ∧
      (execute {} device command).callbacks =
        [.transferComplete artifact.length, .validated, .applying] ∧
      (Collision bytes artifact ∨ ∃ dest, (device.storage target).opened = .ok dest ∧
        ((∃ t r, (execute {} device command).effect = .applied target t ∧
            (execute {} device command).result = .ok r ∧
            Delivered parts command.deleteExtras dest t r) ∨
          ∃ thrown, (execute {} device command).effect = .interrupted target ∧
            (execute {} device command).result = .error thrown ∧
            ∃ file ∈ bundleFiles parts, ¬Unobstructed dest file.1)) := by
  rcases reaches_or_fails device command with
    ⟨bytes, staging, target, hreaches⟩ | ⟨⟨_, hfail⟩, hsame⟩
  · obtain ⟨hserves, hlength, hdigest⟩ :=
      download_eq_ok hnames (fetch_eq_ok_iff.mp hreaches.fetched).2
    rw [hreaches.execute_eq] at htouched ⊢
    refine ⟨bytes, target, hserves, hreaches.destination, by rw [hlength], ?_⟩
    by_cases hsame : bytes = artifact
    · subst hsame
      obtain ⟨staging', hextract, hunzipped, hnodup⟩ :=
        extract_artifact hupload hartifact (recreated_of_extract hreaches.extracted)
      obtain rfl := Except.ok.inj (hextract.symm.trans hreaches.extracted)
      obtain ⟨dest, hopened, happlied⟩ := applyTo_spec hunzipped hnodup htouched
      refine .inr ⟨dest, hopened, ?_⟩
      rcases happlied with ⟨t, r, heq, hdelivered⟩ | ⟨thrown, heq, hblocked⟩
      · exact .inl ⟨t, r, by rw [heq], by rw [heq], hdelivered⟩
      · exact .inr ⟨thrown, by rw [heq], by rw [heq], hblocked⟩
    · exact .inl ⟨hsame, hdigest⟩
  · rcases htouched with ⟨r, hok⟩ | htouched
    · exact absurd (hfail.symm.trans hok) (by simp)
    · exact absurd hsame htouched

/-- The worker resolves the destination to the directory that the server means exactly when its
components are read alike. -/
theorem validateDestination_agrees_iff {value destination : Str} {root : List Str}
    (hroot : SharedRoot device.fs device.externalStorageDirectory root)
    (hdest : canonicalDestination value = .ok destination)
    (hparse : parseDestPath destination = .ok (ofString command.destPath)) :
    validateDestinationAgainstRoot device.fs device.externalStorageDirectory
        (ofString command.destPath) = .ok (root ++ destinationParts value) ↔
      ReadAlike root (destinationParts value) := by
  obtain ⟨rfl, hne, hparts, hprotected⟩ := canonicalDestination_spec hdest
  have habs : (sdcard ++ slash :: join (destinationParts value)).head? = some slash := by
    rw [destination_eq hne]
    rfl
  have hback : backslash ∉ sdcard ++ slash :: join (destinationParts value) := by
    rw [destination_eq hne, List.mem_cons, not_or]
    refine ⟨by decide, fun hmem => ?_⟩
    rcases mem_join hmem with hslash | ⟨part, hpart, hmem⟩
    · exact absurd hslash (by decide)
    · rcases List.mem_cons.mp hpart with rfl | hpart
      · exact absurd hmem (by decide)
      · exact (hparts part hpart).backslash hmem
  have hclient : clientDestination device.fs device.externalStorageDirectory
      (sdcard ++ slash :: join (destinationParts value)) =
        validateDestinationAgainstRoot device.fs device.externalStorageDirectory
          (ofString command.destPath) := by
    rw [clientDestination, hparse]
    rfl
  rw [← hclient, clientDestination_eq_ok_iff hroot habs hback,
    ← relativeParts_trimmed_iff hne hparts hprotected hroot.names]
  refine and_congr_right fun _ => ⟨?_, fun h => ⟨_, h.1, h.2, rfl⟩⟩
  rintro ⟨parts, hrel, hvalid, htarget⟩
  obtain rfl := List.append_cancel_left htarget
  exact ⟨hrel, hvalid⟩

/-- **When a bundle arrives.** Suppose the connection brings nothing but the published archive. Then
the bundle arrives where the server meant it to go exactly when the worker has its permission and
its directories, the response is complete, the client reads the destination as the server does, and
nothing there is in the way of a file of the bundle. -/
theorem execute_succeeds_iff {value destination : Str} {root : List Str}
    (hupload : uploadHandler parts = .ok entries)
    (hartifact : device.openZip artifact = some entries) (hnames : Names command artifact)
    (hmax : artifact.length ≤ maxLong)
    (hroot : SharedRoot device.fs device.externalStorageDirectory root)
    (hdest : canonicalDestination value = .ok destination)
    (hparse : parseDestPath destination = .ok (ofString command.destPath))
    (hhonest : ∀ bytes, Serves device command.artifactUrl bytes → bytes = artifact) :
    (∃ dest t r, (device.storage (root ++ destinationParts value)).opened = .ok dest ∧
        (execute {} device command).result = .ok r ∧
        (execute {} device command).effect = .applied (root ++ destinationParts value) t ∧
        Delivered parts command.deleteExtras dest t r) ↔
      device.hasExternalStorageAccess = true ∧ device.workRecreated = .done ∧
        device.stagingRecreated = .done ∧ Serves device command.artifactUrl artifact ∧
        ReadAlike root (destinationParts value) ∧
        ∃ dest, (device.storage (root ++ destinationParts value)).opened = .ok dest ∧
          ∀ file ∈ bundleFiles parts, Unobstructed dest file.1 := by
  rw [← validateDestination_agrees_iff hroot hdest hparse]
  constructor
  · rintro ⟨dest, t, r, hopened, hok, heffect, -⟩
    rcases reaches_or_fails device command with ⟨bytes, staging, target, hreaches⟩ | ⟨⟨_, hfail⟩, -⟩
    · obtain ⟨hwork, hdownload⟩ := fetch_eq_ok_iff.mp hreaches.fetched
      obtain rfl := hhonest _ (download_eq_ok hnames hdownload).1
      have hstaging := recreated_of_extract hreaches.extracted
      obtain ⟨staging', hextract, hunzipped, hnodup⟩ := extract_artifact hupload hartifact hstaging
      obtain rfl := Except.ok.inj (hextract.symm.trans hreaches.extracted)
      rw [hreaches.execute_eq] at hok heffect
      obtain ⟨dest', hopened', happlied⟩ := applyTo_spec hunzipped hnodup (.inl ⟨r, hok⟩)
      rcases happlied with ⟨t', r', heq, -⟩ | ⟨thrown, heq, -⟩
      · -- the directory that was applied to is the one that the server means
        have htarget : target = root ++ destinationParts value := by
          rw [heq] at heffect
          exact (Effect.applied.inj heffect).1
        subst htarget
        refine ⟨hreaches.access, hwork, hstaging, (download_eq_ok hnames hdownload).1,
          hreaches.destination, dest', hopened', ?_⟩
        rw [← hunzipped.clear_iff, ← apply_isOk_iff device.order _ _ command.deleteExtras]
        rw [applyTo, hopened'] at heq
        dsimp only at heq
        split at heq
        · exact absurd heq (by simp)
        · exact ⟨_, _, ‹_›⟩
      · exact absurd (heq ▸ hok) (by simp)
    · exact absurd (hfail.symm.trans hok) (by simp)
  · rintro ⟨haccess, hwork, hstaging, hserves, hdestination, dest, hopened, hclear⟩
    obtain ⟨staging, hreaches, hunzipped, hnodup⟩ := reaches_of_serves hupload hartifact hnames hmax
      haccess hwork hstaging hserves hdestination
    obtain ⟨t, r, hok, heffect, hdelivered⟩ := hreaches.succeeds hunzipped hnodup hopened hclear
    exact ⟨dest, t, r, hopened, hok, heffect, hdelivered⟩

end Execute

/-! ### One file -/

/-- The upload of one file. -/
private def oneFileUpload : List Part :=
  [⟨some (ofString "files"), some (ofString "a.txt"), [[7]], by simp⟩]

/-- What `zipfile` makes of it. -/
private def oneFileArtifact : Bytes :=
  [80, 75, 3, 4, 20, 0, 0, 0, 8, 0, 131, 24, 34, 88, 46, 122, 102, 76, 3, 0, 0, 0, 1, 0, 0, 0, 5,
    0, 0, 0, 97, 46, 116, 120, 116, 99, 7, 0, 80, 75, 1, 2, 20, 3, 20, 0, 0, 0, 8, 0, 131, 24, 34,
    88, 46, 122, 102, 76, 3, 0, 0, 0, 1, 0, 0, 0, 5, 0, 0, 0, 0, 0, 0, 0, 0, 0, 0, 0, 164, 129, 0,
    0, 0, 0, 97, 46, 116, 120, 116, 80, 75, 5, 6, 0, 0, 0, 0, 1, 0, 1, 0, 51, 0, 0, 0, 38, 0, 0, 0,
    0, 0]

/-- The command that delivers the artifact. -/
private def oneFileCommand : Client.Command where
  jobId := some "3f0c9c3e-7a53-4d0c-9f3e-0b8f5f0d7a11"
  attempt := 1
  artifactId := some "9a1b5a52-0a3f-4f61-8c6e-5f0f3f1f6f10"
  artifactUrl := "http://mdm.local/artifacts/9a1b5a52"
  artifactSize := some oneFileArtifact.length
  artifactSha256 := some (hexDigest oneFileArtifact)
  bundleFilename := "bundle.zip"
  destPath := "/sdcard/apps"
  deleteExtras := true

private theorem oneFile_listed (paths : List (List Str)) : (id paths).Perm paths := List.Perm.refl _

/-- A device with an empty shared storage, to which the artifact comes in two reads. -/
private def oneFileDevice : Device where
  hasExternalStorageAccess := true
  work := [ofString "work"]
  workRecreated := .done
  stagingRecreated := .done
  response _ := .status 200 ⟨[oneFileArtifact.take 100, oneFileArtifact.drop 100], none⟩
  moveFailure := none
  openZip bytes := if bytes = oneFileArtifact then some [⟨ofString "a.txt", [7]⟩] else none
  streams := singleReads
  fs := linkFree
  externalStorageDirectory := sharedStorage
  storage _ := .absent true
  order := ⟨id, oneFile_listed⟩
  invalidPath := none
  copyFailure _ := none

private theorem oneFile_uploaded :
    uploadHandler oneFileUpload = .ok [⟨ofString "a.txt", [7]⟩] := by decide +kernel

private theorem oneFile_openZip :
    oneFileDevice.openZip oneFileArtifact = some [⟨ofString "a.txt", [7]⟩] := by
  simp only [oneFileDevice, if_true]

private theorem oneFile_names : Names oneFileCommand oneFileArtifact := ⟨rfl, rfl⟩

private theorem oneFile_flatten :
    [oneFileArtifact.take 100, oneFileArtifact.drop 100].flatten = oneFileArtifact := by
  rw [List.flatten_cons, List.flatten_singleton, List.take_append_drop]

private theorem oneFile_serves :
    Serves oneFileDevice oneFileCommand.artifactUrl oneFileArtifact :=
  ⟨⟨200, _, rfl, by decide, by decide, rfl, oneFile_flatten⟩, rfl⟩

private theorem oneFile_canonical :
    canonicalDestination (ofString "/sdcard/apps") = .ok (ofString "/sdcard/apps") := by
  decide +kernel

private theorem oneFile_parsed :
    parseDestPath (ofString "/sdcard/apps") = .ok (ofString oneFileCommand.destPath) := by
  decide +kernel

private theorem oneFile_readAlike :
    ReadAlike sharedStorage (destinationParts (ofString "/sdcard/apps")) := by
  have hparts : destinationParts (ofString "/sdcard/apps") = [ofString "apps"] := by decide +kernel
  rw [hparts]
  exact readAlike_sharedStorage [] (ofString "apps") (by decide) (by decide) (by decide)

/-- Nothing is in the way in a new directory. -/
private theorem oneFile_clear (target : List Str) :
    ∃ dest, (oneFileDevice.storage target).opened = .ok dest ∧
      ∀ file ∈ bundleFiles oneFileUpload, Unobstructed dest file.1 := by
  refine ⟨_, rfl, fun file _ => ⟨fun q _ _ _ => Bool.false_ne_true, fun stored hstored => ?_⟩⟩
  exact absurd hstored (by simp [Disk.find])

theorem execute_delivers_one_file :
    (PushFilesWorker.execute {} oneFileDevice oneFileCommand).callbacks =
      [.transferComplete 111, .validated, .applying] := by
  have hroot : SharedRoot oneFileDevice.fs oneFileDevice.externalStorageDirectory sharedStorage :=
    sharedRoot_linkFree
  have hdestination := (validateDestination_agrees_iff hroot oneFile_canonical oneFile_parsed).mpr
    oneFile_readAlike
  obtain ⟨staging, hreaches, hunzipped, hnodup⟩ := reaches_of_serves oneFile_uploaded
    oneFile_openZip oneFile_names (by decide) rfl rfl rfl oneFile_serves hdestination
  obtain ⟨dest, hopened, hclear⟩ := oneFile_clear _
  obtain ⟨t, r, hok, -⟩ := hreaches.succeeds hunzipped hnodup hopened hclear
  obtain ⟨-, -, -, -, hcallbacks, -⟩ := execute_delivers oneFile_uploaded oneFile_openZip
    oneFile_names (.inl ⟨r, hok⟩)
  exact hcallbacks

theorem execute_succeeds_iff_one_file :
    ∃ dest t r, (oneFileDevice.storage
        (sharedStorage ++ destinationParts (ofString "/sdcard/apps"))).opened = .ok dest ∧
      (PushFilesWorker.execute {} oneFileDevice oneFileCommand).result = .ok r ∧
      (PushFilesWorker.execute {} oneFileDevice oneFileCommand).effect =
        .applied (sharedStorage ++ destinationParts (ofString "/sdcard/apps")) t ∧
      Delivered oneFileUpload true dest t r := by
  have hhonest : ∀ bytes, Serves oneFileDevice oneFileCommand.artifactUrl bytes →
      bytes = oneFileArtifact := by
    rintro bytes ⟨⟨code, body, hresponse, -, -, -, hflatten⟩, -⟩
    cases hresponse
    rw [← hflatten]
    exact oneFile_flatten
  exact (execute_succeeds_iff oneFile_uploaded oneFile_openZip oneFile_names (by decide)
    sharedRoot_linkFree oneFile_canonical oneFile_parsed hhonest).mpr
      ⟨rfl, rfl, rfl, oneFile_serves, oneFile_readAlike, oneFile_clear _⟩

end StylyMdm.Files
