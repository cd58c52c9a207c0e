import StylyMdm.Client.Protocol
import StylyMdm.Library.OrgJson
import StylyMdm.Library.Run
import StylyMdm.Library.Text

/-!
# The state file of the client

`stateToJson` and `stateFromJson` of `PushProtocol.kt`, with the strict parser of commands that
reading a state runs again, and `PushJobStore.load`.

What is saved is read back (`stateFromJson_stateToJson`). Records of the file may be damaged: each
is read under a `catch` of `RuntimeException`, which a `JSONException` is not. A damaged record
that throws one is not contained, and the whole file is lost (`damage_contained_iff`,
`load_of_not_contained`).

**Parsing.** The parser trims, checks and normalises every field. What comes from it is a `Parsed`
command, and such a command is written so that it parses to itself (`parseCommand_toJson`): this is
what makes reading a state possible at all, since the strict parser runs once more.

**Reading back.** A result loses a blank failure code or detail on the way through the file, and
nothing else (`readBack`). The results that the client makes have neither or both texts, so for them
the round trip is exact but for that (`Made`).

**Damage.** A `Damage` replaces any fields of the file by any values. `Survives` says which records
a reader may expect to keep, and `Contained` when the reader gets as far as keeping them: no record
it tries to read throws what the `catch` lets through. The condition is exact. The last section has
the smallest case, an `active` record that is an empty object.
-/

namespace StylyMdm.Client.Codec

open OrgJson Text

/-! ### Parsing a command -/

/-- The scheme and the host of a `java.net.URI`. -/
structure Uri where
  scheme : Option String
  host : Option String

/-- What the codec uses of the platform: `UUID.fromString` with `version`, the constructor of
`URI`, each with `none` where it throws, and `org.json`. -/
structure Platform where
  uuidVersion : String → Option Int
  uri : String → Option Uri
  json : Coercions

/-- The characters `trim` and `isBlank` pass over. -/
def blankChar (c : Char) : Bool := (ofString (String.singleton c)).all isWhitespace

/-- `CharSequence.isBlank`. -/
def isBlank (text : String) : Bool := text.toList.all blankChar

/-- `CharSequence.trim`. -/
def trimmed (text : String) : String := String.ofList (strip blankChar text.toList)

/-- `ifBlank { null }`. -/
def nonBlank (text : String) : Option String := if isBlank text then none else some text

/-- `SHA256.matches`. -/
def isSha256 (text : String) : Bool :=
  text.toList.length = 64 && text.toList.all Char.isHexDigit

/-- The message of `malformed`. -/
def malformed (detail : String) : String := "malformed_command: " ++ detail

/-- `require`, of an `IllegalArgumentException` with this message. -/
def check (holds : Bool) (message : String) : Except String Unit :=
  if holds then .ok () else .error message

/-- `optionalString`. -/
def optionalString (payload : Object) (field : String) : Except String (Option String) :=
  if payload.isNull field then .ok none
  else
    match payload.opt field with
    | some (.string text) => .ok (some text)
    | _ => .error (malformed (field ++ " must be a string"))

/-- `requiredString`. -/
def requiredString (payload : Object) (field : String) : Except String String := do
  match ← optionalString payload field with
  | some text => .ok text
  | none => .error (malformed (field ++ " is required"))

/-- `strictInt`. -/
def strictInt (payload : Object) (field : String) : Except String Int :=
  match payload.opt field with
  | some (.int n) | some (.long n) =>
    if -2 ^ 31 ≤ n ∧ n < 2 ^ 31 then .ok n
    else .error (malformed (field ++ " is outside the supported integer range"))
  | _ => .error (malformed (field ++ " must be a JSON integer"))

/-- `optionalLong`. -/
def optionalLong (payload : Object) (field : String) : Except String (Option Int) :=
  if payload.isNull field then .ok none
  else
    match payload.opt field with
    | some (.int n) | some (.long n) => .ok (some n)
    | _ => .error (malformed (field ++ " must be a JSON integer"))

/-- `strictBoolean`. -/
def strictBoolean (payload : Object) (field : String) (fallback : Bool) : Except String Bool :=
  if payload.isNull field then .ok fallback
  else
    match payload.opt field with
    | some (.bool b) => .ok b
    | _ => .error (malformed (field ++ " must be a JSON boolean"))

/-- `ATTEMPT_V1`. -/
def attemptV1 : Int := 1

section Parse

variable (platform : Platform)

/-- `requireUuidV4`. -/
def requireUuidV4 (value field : String) : Except String Unit :=
  check (platform.uuidVersion value = some 4) (malformed (field ++ " must be a UUIDv4"))

/-- `optionalString(payload, field)?.also { … }` of the two identifiers. -/
def optionalUuid (payload : Object) (field : String) : Except String (Option String) := do
  match ← optionalString payload field with
  | none => .ok none
  | some text =>
    check (!isBlank text) (malformed (field ++ " must not be blank"))
    requireUuidV4 platform text field
    .ok (some text)

/-- `validateArtifactUrl`. -/
def validateArtifactUrl (value : String) : Except String Unit :=
  match platform.uri value with
  | none => .error (malformed "artifact_url is invalid")
  | some uri =>
    check ((uri.scheme = some "http" || uri.scheme = some "https") &&
      (uri.host.bind nonBlank).isSome) (malformed "artifact_url must be an absolute HTTP(S) URL")

/-- The attempt of a command, which a command without a job id does not carry. -/
def parseAttempt (payload : Object) (jobId : Option String) : Except String Int :=
  if jobId.isNone then .ok attemptV1 else strictInt payload "attempt"

/-- `parseCommand`; it throws nothing but an `IllegalArgumentException`. -/
def parseCommand (payload : Object) : Except String Command := do
  let jobId ← optionalUuid platform payload "job_id"
  let attempt ← parseAttempt payload jobId
  check (attempt = attemptV1) "stale_attempt: only attempt=1 is supported"
  let artifactId ← optionalUuid platform payload "artifact_id"
  check (jobId.isNone || artifactId.isSome) (malformed "artifact_id is required")
  let urlKey := if payload.has "artifact_url" then "artifact_url" else "bundle_url"
  let artifactUrl ← requiredString payload urlKey
  validateArtifactUrl platform artifactUrl
  let destPath := trimmed (← requiredString payload "dest_path")
  check (!isBlank destPath) "invalid_destination: destination is required"
  let artifactSize ← optionalLong payload "artifact_size"
  check (artifactSize.all fun n => decide (0 ≤ n)) (malformed "artifact_size must be non-negative")
  let artifactSha256 := (← optionalString payload "artifact_sha256").bind nonBlank
  check (artifactSha256.all isSha256)
    (malformed "artifact_sha256 must be 64 hexadecimal characters")
  check (jobId.isNone || (artifactSize.isSome && artifactSha256.isSome))
    (malformed "job-v1 artifact size and SHA-256 are required")
  let filename := (← optionalString payload "bundle_filename").bind nonBlank
  let deleteExtras ← strictBoolean payload "delete_extras" false
  return {
    jobId, attempt, artifactId, artifactUrl, artifactSize
    artifactSha256 := artifactSha256.map String.toLower
    bundleFilename := filename.getD "bundle.zip"
    destPath, deleteExtras }

end Parse

/-! ### Writing a state -/

/-- `PushProtocol.Active`; a phase read from the file may be any text. -/
structure Active where
  command : Command
  phase : String

/-- `PushProtocol.State`. -/
structure State where
  active : Option Active := none
  pendingResults : List Receipt := []
  completedReceipts : List Receipt := []

/-- `Command.toJson`. -/
def commandToJson (command : Command) : Object :=
  let json := Object.putSome [] "job_id" (command.jobId.map .string)
  let json := json.put "attempt" (.int command.attempt)
  let json := json.putSome "artifact_id" (command.artifactId.map .string)
  let json := json.put "artifact_url" (.string command.artifactUrl)
  let json := json.putSome "artifact_size" (command.artifactSize.map .long)
  let json := json.putSome "artifact_sha256" (command.artifactSha256.map .string)
  let json := json.put "bundle_filename" (.string command.bundleFilename)
  let json := json.put "dest_path" (.string command.destPath)
  json.put "delete_extras" (.bool command.deleteExtras)

/-- `Active.toJson`. -/
def activeToJson (active : Active) : Object :=
  (Object.put [] "command" (.object (commandToJson active.command))).put "phase"
    (.string active.phase)

/-- The fields of `Result.toJson` that only a success has. -/
def putCounts (json : Object) (result : Result) : Object :=
  ((json.put "added" (.int result.added)).put "updated" (.int result.updated)).put "deleted"
    (.int result.deleted)

/-- The fields of `Result.toJson` that only a failure has. -/
def putFailure (json : Object) (result : Result) : Object :=
  let detail := (result.detail.bind nonBlank).map Value.string
  let json := json.putSome "failure_code" ((result.failureCode.bind nonBlank).map .string)
  let json := json.putSome "detail" detail
  -- Old servers display `error`.
  json.putSome "error" (if result.jobId.isNone then detail else none)

/-- `Result.toJson`. -/
def resultToJson (result : Result) : Object :=
  let json := Object.put [] "type" (.string "PUSH_FILES_RESULT")
  let json := json.putSome "job_id" (result.jobId.map .string)
  let json := json.putSome "attempt" (result.jobId.map fun _ => .int result.attempt)
  let json := json.put "status" (.string (if result.success then "success" else "fail"))
  let json := json.put "dest_path" (.string result.destPath)
  if result.success then putCounts json result else putFailure json result

/-- `resultToStateJson`. -/
def resultToStateJson (result : Result) : Object :=
  (resultToJson result).put "completed_at" (.long result.completedAt)

/-- `Receipt.toStateJson`. -/
def receiptToStateJson (receipt : Receipt) : Object :=
  (Object.put [] "command" (.object (commandToJson receipt.command))).put "result"
    (.object (resultToStateJson receipt.result))

/-- `stateToJson`. -/
def stateToJson (state : State) : Object :=
  let receipts (l : List Receipt) := Value.array (l.map fun r => .object (receiptToStateJson r))
  let json := Object.put [] "active" (state.active.elim .null fun active =>
    .object (activeToJson active))
  let json := json.put "pending_results" (receipts state.pendingResults)
  json.put "completed_receipts" (receipts state.completedReceipts)

/-! ### Reading a state -/

/-- What reading a state may throw. On the device a `JSONException` is no `RuntimeException`. -/
inductive Thrown
  | runtime (message : String)
  | json (field : String)
deriving DecidableEq

/-- `try { … } catch (_: RuntimeException) { null }`. -/
def catchRuntime {α : Type} : Except Thrown (Option α) → Except Thrown (Option α)
  | .error (.runtime _) => .ok none
  | outcome => outcome

section Read

variable (platform : Platform)

/-- `getString`. -/
def getString (json : Object) (field : String) : Except Thrown String :=
  match json.getString? platform.json field with
  | some text => .ok text
  | none => .error (.json field)

/-- `getJSONObject`. -/
def getJSONObject (json : Object) (field : String) : Except Thrown Object :=
  match json.optJSONObject field with
  | some o => .ok o
  | none => .error (.json field)

/-- `commandFromJson`. -/
def commandFromJson (json : Object) : Except Thrown Command :=
  (parseCommand platform json).mapError .runtime

/-- The `require` of the constructor of `Result`. -/
def parseStatus (status : String) : Except Thrown Bool :=
  if status = "success" then .ok true
  else if status = "fail" then .ok false
  else .error (.runtime "Failed requirement.")

/-- `resultFromJson`. -/
def resultFromJson (json : Object) : Except Thrown Result := do
  let status ← getString platform json "status"
  let destPath ← getString platform json "dest_path"
  let success ← parseStatus status
  let text (field fallback : String) := json.optString platform.json field fallback
  let number (field : String) (fallback : Int) := json.optInt platform.json field fallback
  return {
    jobId := nonBlank (text "job_id" "")
    attempt := number "attempt" attemptV1
    success, destPath
    added := number "added" 0
    updated := number "updated" 0
    deleted := number "deleted" 0
    failureCode := nonBlank (text "failure_code" "")
    detail := nonBlank (text "detail" (text "error" ""))
    completedAt := json.optLong platform.json "completed_at" 0 }

/-- The active execution of `stateFromJson`. -/
def activeFromJson (value : Option Value) : Except Thrown (Option Active) :=
  match value.bind Value.asObject with
  | none => .ok none
  | some it => catchRuntime do
    let command ← commandFromJson platform (← getJSONObject it "command")
    let phase ← getString platform it "phase"
    return some ⟨command, phase⟩

/-- One item of `receipts`. -/
def receiptFromJson (value : Value) : Except Thrown (Option Receipt) :=
  match value.asObject with
  | none => .ok none
  | some item =>
    match item.optJSONObject "command", item.optJSONObject "result" with
    | some command, some result => catchRuntime do
      let command ← commandFromJson platform command
      let result ← resultFromJson platform result
      return some ⟨command, result⟩
    | _, _ => .ok none

/-- The loop of `receipts`. -/
def receiptsFromJson : List Value → Except Thrown (List Receipt)
  | [] => .ok []
  | value :: items => do
    let receipt ← receiptFromJson platform value
    let receipts ← receiptsFromJson items
    return receipt.toList ++ receipts

/-- `stateFromJson`. -/
def stateFromJson (json : Object) : Except Thrown State := do
  let active ← activeFromJson platform (json.opt "active")
  let pending ← receiptsFromJson platform ((json.optJSONArray "pending_results").getD [])
  let completed ← receiptsFromJson platform ((json.optJSONArray "completed_receipts").getD [])
  return ⟨active, pending, completed⟩

/-- `PushJobStore.load`, of a file with this text, when the clock reads `now`. -/
def load (now : Int) (json : Object) : State :=
  match stateFromJson platform json with
  | .ok state =>
    { state with
      pendingResults := takeLast maxReceipts state.pendingResults
      completedReceipts := takeLast maxReceipts
        (state.completedReceipts.filter (keptAt (now - receiptRetentionMs))) }
  | .error _ => {}

end Read

/-! ### What is parsed is written so that it parses again -/

/-- A check passes when it holds. -/
theorem check_eq_ok {holds : Bool} {message : String} {u : Unit} :
    check holds message = .ok u ↔ holds = true := by
  cases holds <;> simp [check]

/-- A text that is not blank is kept as it is. -/
theorem isBlank_nonBlank {text text' : String} (h : nonBlank text = some text') :
    text' = text ∧ isBlank text = false := by
  rw [nonBlank] at h
  split at h
  · cases h
  · rename_i hblank
    exact ⟨(Option.some.inj h).symm, Bool.eq_false_of_not_eq_true hblank⟩

/-- And it is kept. -/
theorem nonBlank_of_not {text : String} (h : isBlank text = false) : nonBlank text = some text := by
  rw [nonBlank, h, if_neg Bool.false_ne_true]

/-- Trimming twice is trimming once. -/
theorem trimmed_trimmed (text : String) : trimmed (trimmed text) = trimmed text := by
  rw [trimmed, trimmed, String.toList_ofList, strip_strip]

/-- A hexadecimal digit is no blank, and stays one in lower case. -/
theorem hexDigit_toLower {c : Char} (h : c.isHexDigit = true) :
    blankChar c = false ∧ c.toLower.isHexDigit = true ∧ c.toLower.toLower = c.toLower := by
  have hmem : c.toNat ∈ List.range' 48 10 ++ List.range' 97 6 ++ List.range' 65 6 := by
    simp only [Char.isHexDigit, Char.isDigit, Bool.or_eq_true, Bool.and_eq_true,
      decide_eq_true_iff, ge_iff_le, UInt32.le_iff_toNat_le] at h
    simp only [List.mem_append, List.mem_range'_1]
    have hnat : c.val.toNat = c.toNat := rfl
    simp only [hnat] at h
    have h0 : '0'.val.toNat = 48 := rfl
    have h9 : '9'.val.toNat = 57 := rfl
    have ha : 'a'.val.toNat = 97 := rfl
    have hf : 'f'.val.toNat = 102 := rfl
    have hA : 'A'.val.toNat = 65 := rfl
    have hF : 'F'.val.toNat = 70 := rfl
    omega
  have hall : ∀ n ∈ List.range' 48 10 ++ List.range' 97 6 ++ List.range' 65 6,
      blankChar (Char.ofNat n) = false ∧ (Char.ofNat n).toLower.isHexDigit = true ∧
        (Char.ofNat n).toLower.toLower = (Char.ofNat n).toLower := by
    decide +kernel
  have hc := hall c.toNat hmem
  rwa [Char.ofNat_toNat] at hc

/-- A digest in lower case is one. -/
theorem isSha256_toLower {text : String} (h : isSha256 text = true) :
    isBlank text.toLower = false ∧ isSha256 text.toLower = true ∧
      text.toLower.toLower = text.toLower := by
  simp only [isSha256, Bool.and_eq_true, decide_eq_true_iff, List.all_eq_true] at h
  obtain ⟨hlength, hhex⟩ := h
  have hlower : text.toLower.toList = text.toList.map Char.toLower := String.toList_map
  refine ⟨?_, ?_, ?_⟩
  · rcases hlist : text.toList with _ | ⟨c, l⟩
    · rw [hlist] at hlength
      exact absurd hlength (by decide)
    · have hc := hexDigit_toLower (hhex c (hlist ▸ List.mem_cons_self))
      rw [isBlank, hlower, hlist, List.map_cons, List.all_cons,
        (hexDigit_toLower hc.2.1).1, Bool.false_and]
  · rw [isSha256, hlower]
    simp only [List.length_map, hlength, List.all_map, Bool.and_eq_true, decide_eq_true_iff,
      List.all_eq_true, true_and]
    exact fun c hc => (hexDigit_toLower (hhex c hc)).2.1
  · rw [← String.toList_inj, show text.toLower.toLower.toList = text.toLower.toList.map Char.toLower
      from String.toList_map, hlower, List.map_map]
    exact List.map_congr_left fun c hc => (hexDigit_toLower (hhex c hc)).2.2

section Command

variable {platform : Platform} {payload : Object} {field : String} {command : Command}

/-- What `parseCommand` leaves of a command. -/
structure Parsed (platform : Platform) (command : Command) : Prop where
  jobId : ∀ id ∈ command.jobId, isBlank id = false ∧ platform.uuidVersion id = some 4
  attempt : command.attempt = attemptV1
  artifactId : ∀ id ∈ command.artifactId, isBlank id = false ∧ platform.uuidVersion id = some 4
  named : (command.jobId.isNone || command.artifactId.isSome) = true
  url : validateArtifactUrl platform command.artifactUrl = .ok ()
  destPath : trimmed command.destPath = command.destPath ∧ isBlank command.destPath = false
  size : ∀ n ∈ command.artifactSize, 0 ≤ n
  digest : ∀ text ∈ command.artifactSha256,
    isBlank text = false ∧ isSha256 text = true ∧ text.toLower = text
  complete : (command.jobId.isNone ||
    (command.artifactSize.isSome && command.artifactSha256.isSome)) = true
  filename : isBlank command.bundleFilename = false

/-- An identity that was read is a UUID of version 4. -/
theorem optionalUuid_eq_ok {id : Option String} (h : optionalUuid platform payload field = .ok id) :
    ∀ text ∈ id, isBlank text = false ∧ platform.uuidVersion text = some 4 := by
  rw [optionalUuid, Except.bind_eq_ok] at h
  obtain ⟨text, -, h⟩ := h
  cases text with
  | none =>
    cases h
    exact fun _ hnone => absurd hnone (by simp)
  | some text =>
    simp only [requireUuidV4, Except.bind_eq_ok, check_eq_ok, Bool.not_eq_true',
      decide_eq_true_iff] at h
    obtain ⟨-, hblank, -, hversion, h⟩ := h
    cases h
    rintro _ ⟨⟩
    exact ⟨hblank, hversion⟩

/-- **What `parseCommand` returns.** -/
theorem parsed_of_parseCommand (h : parseCommand platform payload = .ok command) :
    Parsed platform command := by
  simp only [parseCommand, Except.bind_eq_ok, check_eq_ok] at h
  obtain ⟨jobId, hjobId, attempt, -, -, hattempt, artifactId, hartifactId, -, hnamed, url, -, u,
    hurl, destPath, -, -, hdestPath, size, -, -, hsize, digest, -, -, hdigest, -, hcomplete,
    filename, -, deleteExtras, -, h⟩ := h
  obtain rfl := Except.ok.inj h
  refine ⟨optionalUuid_eq_ok hjobId, of_decide_eq_true hattempt, optionalUuid_eq_ok hartifactId,
    hnamed, hurl, ⟨trimmed_trimmed _, by simpa using hdestPath⟩, ?_, ?_,
    by rwa [Option.isSome_map], ?_⟩
  · intro n hn
    cases hn
    simpa using hsize
  · intro text htext
    obtain ⟨text', htext', rfl⟩ := Option.map_eq_some_iff.1 htext
    rw [htext'] at hdigest
    exact isSha256_toLower (by simpa using hdigest)
  · dsimp only
    rcases hname : filename.bind nonBlank with _ | name
    · decide +kernel
    · obtain ⟨text, -, hnonBlank⟩ := Option.bind_eq_some_iff.1 hname
      obtain ⟨rfl, hblank⟩ := isBlank_nonBlank hnonBlank
      exact hblank

/-- A text that was put is read. -/
theorem optionalString_of_opt (payload : Object) (field : String) {text : Option String}
    (h : payload.opt field = text.map .string) : optionalString payload field = .ok text := by
  rw [optionalString, Object.isNull, h]
  cases text <;> rfl

/-- And so is one that is required. -/
theorem requiredString_of_opt (payload : Object) (field : String) {text : String}
    (h : payload.opt field = some (.string text)) : requiredString payload field = .ok text := by
  have hread := optionalString_of_opt payload field (h.trans (Option.map_some ..).symm)
  rw [requiredString, hread]
  rfl

/-- And a number. -/
theorem optionalLong_of_opt (payload : Object) (field : String) {n : Option Int}
    (h : payload.opt field = n.map .long) :
    optionalLong payload field = .ok n := by
  rw [optionalLong, Object.isNull, h]
  cases n <;> rfl

/-- And an identity. -/
theorem optionalUuid_of_opt (payload : Object) (field : String) {id : Option String}
    (h : payload.opt field = id.map .string)
    (hid : ∀ text ∈ id, isBlank text = false ∧ platform.uuidVersion text = some 4) :
    optionalUuid platform payload field = .ok id := by
  rw [optionalUuid, optionalString_of_opt payload field h]
  cases id with
  | none => rfl
  | some text =>
    obtain ⟨hblank, hversion⟩ := hid text rfl
    simp [requireUuidV4, check, hblank, hversion, bind, Except.bind]

/-- A parsed command is written so that it parses to itself. -/
theorem parseCommand_toJson (h : Parsed platform command) :
    parseCommand platform (commandToJson command) = .ok command := by
  let json := commandToJson command
  have hjobId : optionalUuid platform json "job_id" = .ok command.jobId :=
    optionalUuid_of_opt json "job_id" (by simp [json, commandToJson]) h.jobId
  have hattempt : parseAttempt json command.jobId = .ok command.attempt := by
    rw [parseAttempt]
    split
    · rw [h.attempt]
    · rw [strictInt, show json.opt "attempt" = some (.int command.attempt) by
        simp [json, commandToJson], h.attempt]
      rfl
  have hartifactId : optionalUuid platform json "artifact_id" = .ok command.artifactId :=
    optionalUuid_of_opt json "artifact_id" (by simp [json, commandToJson]) h.artifactId
  have hkey : (if json.has "artifact_url" then "artifact_url" else "bundle_url") =
      "artifact_url" := by
    simp [json, commandToJson, Object.has]
  have hurl : requiredString json "artifact_url" = .ok command.artifactUrl :=
    requiredString_of_opt json "artifact_url" (by simp [json, commandToJson])
  have hdestPath : requiredString json "dest_path" = .ok command.destPath :=
    requiredString_of_opt json "dest_path" (by simp [json, commandToJson])
  have hsize : optionalLong json "artifact_size" = .ok command.artifactSize :=
    optionalLong_of_opt json "artifact_size" (by simp [json, commandToJson])
  have hdigest : optionalString json "artifact_sha256" = .ok command.artifactSha256 :=
    optionalString_of_opt json "artifact_sha256" (by simp [json, commandToJson])
  have hfilename : optionalString json "bundle_filename" = .ok (some command.bundleFilename) :=
    optionalString_of_opt json "bundle_filename" (by simp [json, commandToJson])
  have hextras : strictBoolean json "delete_extras" false = .ok command.deleteExtras := by
    simp [strictBoolean, Object.isNull, json, commandToJson]
  have hdigest' : command.artifactSha256.bind nonBlank = command.artifactSha256 := by
    cases hsha : command.artifactSha256 with
    | none => rfl
    | some text => exact nonBlank_of_not (h.digest text hsha).1
  simp only [parseCommand, Except.bind_eq_ok, check_eq_ok]
  refine ⟨_, hjobId, _, hattempt, (), by simp [h.attempt], _, hartifactId, (), h.named, _, ?_, (),
    h.url, _, hdestPath, (), ?_, _, hsize, (), ?_, _, hdigest, (), ?_, (), ?_, _, hfilename, _,
    hextras, ?_⟩
  · rw [hkey, hurl]
  · simp [h.destPath]
  · simpa [Option.all_eq_true] using h.size
  · rw [hdigest']
    simpa [Option.all_eq_true] using fun text htext => (h.digest text htext).2.1
  · rw [hdigest']
    exact h.complete
  · rw [hdigest', h.destPath.1, Option.bind_some, nonBlank_of_not h.filename]
    have hlower : command.artifactSha256.map String.toLower = command.artifactSha256 := by
      cases hsha : command.artifactSha256 with
      | none => rfl
      | some text => exact congrArg some (h.digest text hsha).2.2
    rw [hlower]
    rfl

end Command

/-! ### What was saved is read back -/

/-- A result as the worker builds it for a command. The recovery of an interrupted execution builds
a failure. -/
inductive Made (command : Command) : Result → Prop
  | success (added updated deleted completedAt : Int) : Made command {
      jobId := command.jobId, attempt := command.attempt, success := true
      destPath := command.destPath, added, updated, deleted, completedAt }
  | failure (failureCode detail : String) (completedAt : Int) : Made command {
      jobId := command.jobId, attempt := command.attempt, success := false
      destPath := command.destPath, failureCode := some failureCode, detail := some detail
      completedAt }

/-- The result with a blank failure code or detail made null. -/
def readBack (result : Result) : Result :=
  { result with
    failureCode := result.failureCode.bind nonBlank
    detail := result.detail.bind nonBlank }

/-- The receipt as it is read back. -/
def readBackReceipt (receipt : Receipt) : Receipt :=
  { receipt with result := readBack receipt.result }

/-- A state whose commands come from `parseCommand` and whose results were built for such. -/
structure Sound (platform : Platform) (state : State) : Prop where
  active : ∀ active ∈ state.active, ∃ payload, parseCommand platform payload = .ok active.command
  command : ∀ receipt ∈ state.pendingResults ++ state.completedReceipts,
    ∃ payload, parseCommand platform payload = .ok receipt.command
  result : ∀ receipt ∈ state.pendingResults ++ state.completedReceipts,
    ∃ command payload, parseCommand platform payload = .ok command ∧ Made command receipt.result

section RoundTrip

variable {platform : Platform} {command : Command} {result : Result} {receipt : Receipt}
  {state : State}

/-- A blank text is made null once. -/
theorem nonBlank_bind (text : Option String) :
    (text.bind nonBlank).bind nonBlank = text.bind nonBlank := by
  rcases hnonBlank : text.bind nonBlank with _ | text'
  · rfl
  · obtain ⟨text, -, htext⟩ := Option.bind_eq_some_iff.1 hnonBlank
    obtain ⟨rfl, hblank⟩ := isBlank_nonBlank htext
    exact nonBlank_of_not hblank

/-- A text that was put unless it was null is read back, unless it is blank. -/
theorem nonBlank_optString (c : Coercions) {json : Object} {field : String} {text : Option String}
    (h : json.opt field = text.map .string) :
    nonBlank (json.optString c field "") = text.bind nonBlank := by
  rw [Object.optString, h]
  cases text with
  | none => rfl
  | some text => simp

/-- The counts of a failure are not written, and zero. -/
theorem Made.counts (h : Made command result) (c : Coercions) :
    (resultToStateJson result).optInt c "added" 0 = result.added ∧
    (resultToStateJson result).optInt c "updated" 0 = result.updated ∧
    (resultToStateJson result).optInt c "deleted" 0 = result.deleted := by
  cases h <;> simp [Object.optInt, resultToStateJson, resultToJson, putCounts, putFailure]

/-- The failure code is read back unless it is blank. -/
theorem Made.failureCode (h : Made command result) (c : Coercions) :
    nonBlank ((resultToStateJson result).optString c "failure_code" "") =
      result.failureCode.bind nonBlank := by
  have hopt : (resultToStateJson result).opt "failure_code" =
      (result.failureCode.bind nonBlank).map .string := by
    cases h <;> simp [resultToStateJson, resultToJson, putCounts, putFailure]
  rw [nonBlank_optString c hopt, nonBlank_bind]

/-- The `error` of a command without a job id repeats the detail. -/
theorem Made.detail (h : Made command result) (c : Coercions) :
    nonBlank ((resultToStateJson result).optString c "detail"
      ((resultToStateJson result).optString c "error" "")) = result.detail.bind nonBlank := by
  have hdetail : (resultToStateJson result).opt "detail" =
      (result.detail.bind nonBlank).map .string := by
    cases h <;> simp [resultToStateJson, resultToJson, putCounts, putFailure]
  have herror : (resultToStateJson result).opt "error" =
      if result.jobId.isNone then (result.detail.bind nonBlank).map .string else none := by
    cases h with
    | success => simp [resultToStateJson, resultToJson, putCounts]
    | failure => cases command.jobId <;> simp [resultToStateJson, resultToJson, putFailure]
  have hfallback : (resultToStateJson result).optString c "detail"
      ((resultToStateJson result).optString c "error" "") =
      (resultToStateJson result).optString c "detail" "" := by
    rw [Object.optString, Object.optString, Object.optString, hdetail, herror]
    cases result.detail.bind nonBlank with
    | none => simp
    | some detail => simp
  rw [hfallback, nonBlank_optString c hdetail, nonBlank_bind]

/-- Without a job id, no identity is written. -/
theorem Made.identity (h : Made command result) (hparsed : Parsed platform command)
    (c : Coercions) :
    nonBlank ((resultToStateJson result).optString c "job_id" "") = result.jobId ∧
    (resultToStateJson result).optInt c "attempt" attemptV1 = result.attempt := by
  have hid : result.jobId = command.jobId := by cases h <;> rfl
  have hone : result.attempt = attemptV1 := by cases h <;> exact hparsed.attempt
  have hjobId : (resultToStateJson result).opt "job_id" = result.jobId.map .string := by
    cases h <;> simp [resultToStateJson, resultToJson, putCounts, putFailure]
  have hattempt : (resultToStateJson result).opt "attempt" =
      result.jobId.map fun _ => .int result.attempt := by
    cases h <;> simp [resultToStateJson, resultToJson, putCounts, putFailure]
  constructor
  · rw [nonBlank_optString c hjobId, hid]
    cases hsome : command.jobId with
    | none => rfl
    | some id => exact nonBlank_of_not (hparsed.jobId id hsome).1
  · rw [Object.optInt, hattempt, hone]
    cases result.jobId <;> simp

/-- A result is read back. -/
theorem resultFromJson_toStateJson (hparsed : Parsed platform command) (h : Made command result) :
    resultFromJson platform (resultToStateJson result) = .ok (readBack result) := by
  have hstatus : getString platform (resultToStateJson result) "status" =
      .ok (if result.success then "success" else "fail") := by
    cases h <;> simp [getString, Object.getString?, resultToStateJson, resultToJson, putCounts,
      putFailure]
  have hdestPath : getString platform (resultToStateJson result) "dest_path" =
      .ok result.destPath := by
    cases h <;> simp [getString, Object.getString?, resultToStateJson, resultToJson, putCounts,
      putFailure]
  have hparse : parseStatus (if result.success then "success" else "fail") =
      .ok result.success := by
    cases result.success <;> rfl
  have hcompletedAt : (resultToStateJson result).optLong platform.json "completed_at" 0 =
      result.completedAt := by
    simp [Object.optLong, resultToStateJson]
  obtain ⟨hadded, hupdated, hdeleted⟩ := h.counts platform.json
  obtain ⟨hjobId, hattempt⟩ := h.identity hparsed platform.json
  rw [resultFromJson, hstatus, hdestPath]
  simp only [bind, Except.bind, hparse]
  rw [hjobId, hattempt, hadded, hupdated, hdeleted, h.failureCode, h.detail, hcompletedAt]
  rfl

/-- And so is a receipt, whose result may be of a command with another id. -/
theorem receiptFromJson_toStateJson {command' : Command}
    (hreceipt : Parsed platform receipt.command) (hparsed : Parsed platform command')
      (h : Made command' receipt.result) :
    receiptFromJson platform (.object (receiptToStateJson receipt)) =
      .ok (some (readBackReceipt receipt)) := by
  have hcommand : (receiptToStateJson receipt).optJSONObject "command" =
      some (commandToJson receipt.command) := by
    simp [Object.optJSONObject, receiptToStateJson, Value.asObject]
  have hresult : (receiptToStateJson receipt).optJSONObject "result" =
      some (resultToStateJson receipt.result) := by
    simp [Object.optJSONObject, receiptToStateJson, Value.asObject]
  simp only [receiptFromJson, Value.asObject, hcommand, hresult, commandFromJson,
    parseCommand_toJson hreceipt, Except.mapError, resultFromJson_toStateJson hparsed h, bind,
    Except.bind]
  rfl

/-- And the active execution. -/
theorem activeFromJson_toJson {active : Option Active}
    (h : ∀ a ∈ active, Parsed platform a.command) :
    activeFromJson platform (some (active.elim .null fun a => .object (activeToJson a))) =
      .ok active := by
  cases active with
  | none => rfl
  | some a =>
    have hcommand : getJSONObject (activeToJson a) "command" = .ok (commandToJson a.command) := by
      simp [getJSONObject, Object.optJSONObject, activeToJson, Value.asObject]
    have hphase : getString platform (activeToJson a) "phase" = .ok a.phase := by
      simp [getString, Object.getString?, activeToJson]
    simp only [activeFromJson, Option.elim_some, Option.bind_some, Value.asObject, hcommand,
      commandFromJson, parseCommand_toJson (h a rfl), Except.mapError, hphase, bind, Except.bind]
    rfl

/-- Each receipt of a sound state is read back. -/
theorem Sound.parsed (h : Sound platform state)
    (hreceipt : receipt ∈ state.pendingResults ++ state.completedReceipts) :
    receiptFromJson platform (.object (receiptToStateJson receipt)) =
      .ok (some (readBackReceipt receipt)) := by
  obtain ⟨payload, hcommand⟩ := h.command receipt hreceipt
  obtain ⟨command', payload', hcommand', hmade⟩ := h.result receipt hreceipt
  exact receiptFromJson_toStateJson (parsed_of_parseCommand hcommand)
    (parsed_of_parseCommand hcommand') hmade

/-- And so are the lists of them. -/
theorem receiptsFromJson_toStateJson {receipts : List Receipt}
    (h : ∀ receipt ∈ receipts, receiptFromJson platform (.object (receiptToStateJson receipt)) =
      .ok (some (readBackReceipt receipt))) :
    receiptsFromJson platform (receipts.map fun r => .object (receiptToStateJson r)) =
      .ok (receipts.map readBackReceipt) := by
  induction receipts with
  | nil => rfl
  | cons receipt receipts ih =>
    rw [List.map_cons, receiptsFromJson, h receipt List.mem_cons_self,
      ih fun r hr => h r (List.mem_cons_of_mem _ hr)]
    rfl

/-- The state as it is read back. -/
def readBackState (state : State) : State :=
  { state with
    pendingResults := state.pendingResults.map readBackReceipt
    completedReceipts := state.completedReceipts.map readBackReceipt }

/-- And its active execution. -/
theorem Sound.active_fromJson (h : Sound platform state) :
    activeFromJson platform
      (some (state.active.elim .null fun a => .object (activeToJson a))) = .ok state.active := by
  refine activeFromJson_toJson fun active hactive => ?_
  obtain ⟨payload, hcommand⟩ := h.active active hactive
  exact parsed_of_parseCommand hcommand

/-- **What was saved is read back**, but for a blank failure code or detail. -/
theorem stateFromJson_stateToJson (h : Sound platform state) :
    stateFromJson platform (stateToJson state) = .ok (readBackState state) := by
  have hpending := receiptsFromJson_toStateJson fun r hr =>
    h.parsed (List.mem_append_left state.completedReceipts hr)
  have hcompleted := receiptsFromJson_toStateJson fun r hr =>
    h.parsed (List.mem_append_right state.pendingResults hr)
  have hactive := h.active_fromJson
  simp only [stateFromJson, stateToJson, Object.optJSONArray, Object.opt_put, Object.opt_nil,
    String.reduceEq, if_true, if_false, Option.bind_some, Value.asArray, Option.getD_some, hactive,
    hpending, hcompleted, bind, Except.bind]
  rfl

end RoundTrip

/-! ### A damaged file -/

/-- Values that replace `active` and some of the receipts, which are known by their index. -/
structure Damage where
  active : Option Value := none
  pending : Nat → Option Value := fun _ => none
  completed : Nat → Option Value := fun _ => none

/-- The items, with the ones that are replaced. -/
def replaceItems (replacement : Nat → Option Value) : Value → Value
  | .array items => .array (items.mapIdx fun i item => (replacement i).getD item)
  | v => v

/-- The object with the values that are replaced. -/
def Damage.apply (damage : Damage) (json : Object) : Object :=
  json.map fun field => (field.1,
    if field.1 = "active" then damage.active.getD field.2
    else if field.1 = "pending_results" then replaceItems damage.pending field.2
    else if field.1 = "completed_receipts" then replaceItems damage.completed field.2
    else field.2)

/-- The receipts that are not replaced. -/
def unreplaced (replacement : Nat → Option Value) : List Receipt → List Receipt
  | [] => []
  | receipt :: receipts =>
    let rest := unreplaced (fun i => replacement (i + 1)) receipts
    if (replacement 0).isNone then receipt :: rest else rest

/-- The file is read, and the receipts that are not replaced are there. -/
def Survives (platform : Platform) (state : State) (damage : Damage) : Prop :=
  ∃ state', stateFromJson platform (damage.apply (stateToJson state)) = .ok state' ∧
    ((unreplaced damage.pending state.pendingResults).map readBackReceipt).Sublist
      state'.pendingResults ∧
    ((unreplaced damage.completed state.completedReceipts).map readBackReceipt).Sublist
      state'.completedReceipts

section Damage

variable (platform : Platform)

/-- Does `parseCommand` accept the object? -/
def accepts (command : Object) : Bool := (parseCommand platform command).isOk

/-- An `active` of which `getJSONObject` or `getString` throws: an object without an object
`command`, or with an acceptable one and no `phase`. -/
def activeEscapes (value : Value) : Bool :=
  value.asObject.any fun it =>
    (it.optJSONObject "command").all fun command =>
      accepts platform command && (it.getString? platform.json "phase").isNone

/-- A receipt of which `getString` throws: an object with an acceptable `command` and an object
`result`, which lacks its `status` or its `dest_path`. -/
def receiptEscapes (value : Value) : Bool :=
  value.asObject.any fun item =>
    (item.optJSONObject "command").any (accepts platform) &&
      (item.optJSONObject "result").any fun result =>
        (result.getString? platform.json "status").isNone ||
          (result.getString? platform.json "dest_path").isNone

/-- No value that replaces a receipt escapes. -/
def ContainedItems (replacement : Nat → Option Value) (count : Nat) : Prop :=
  ∀ i < count, ∀ v ∈ replacement i, receiptEscapes platform v = false

/-- No replaced value escapes. -/
structure Contained (state : State) (damage : Damage) : Prop where
  active : ∀ v ∈ damage.active, activeEscapes platform v = false
  pending : ContainedItems platform damage.pending state.pendingResults.length
  completed : ContainedItems platform damage.completed state.completedReceipts.length

/-- Reading a command throws a `RuntimeException` or nothing. -/
theorem commandFromJson_cases (command : Object) :
    (accepts platform command = true ∧
      ∃ parsed, commandFromJson platform command = .ok parsed) ∨
    (accepts platform command = false ∧
      ∃ message, commandFromJson platform command = .error (.runtime message)) := by
  rw [accepts, commandFromJson]
  rcases parseCommand platform command with message | parsed
  · exact .inr ⟨rfl, message, rfl⟩
  · exact .inl ⟨rfl, parsed, rfl⟩

/-- Reading an active execution may throw a `JSONException`, which escapes. -/
theorem activeFromJson_cases (value : Value) :
    (activeEscapes platform value = false ∧
      ∃ active, activeFromJson platform (some value) = .ok active) ∨
    (activeEscapes platform value = true ∧
      ∃ field, activeFromJson platform (some value) = .error (.json field)) := by
  rw [activeEscapes, activeFromJson, Option.bind_some]
  rcases value.asObject with _ | it
  · exact .inl ⟨rfl, none, rfl⟩
  rw [Option.any_some]
  dsimp only
  rw [getJSONObject]
  rcases it.optJSONObject "command" with _ | command
  · exact .inr ⟨rfl, "command", rfl⟩
  rw [Option.all_some]
  -- Only a command that parses leads on to the phase.
  rcases commandFromJson_cases platform command with
    ⟨haccepts, parsed, hcommand⟩ | ⟨haccepts, message, hcommand⟩
  · rw [haccepts, Bool.true_and, getString]
    rcases it.getString? platform.json "phase" with _ | phase
    · refine .inr ⟨rfl, "phase", ?_⟩
      simp only [hcommand, bind, Except.bind]
      rfl
    · refine .inl ⟨rfl, some ⟨parsed, phase⟩, ?_⟩
      simp only [hcommand, bind, Except.bind]
      rfl
  · refine .inl ⟨by rw [haccepts, Bool.false_and], none, ?_⟩
    simp only [hcommand, bind, Except.bind]
    rfl

/-- The status throws a `RuntimeException` or nothing. -/
theorem parseStatus_cases (status : String) :
    (∃ success, parseStatus status = .ok success) ∨
      ∃ message, parseStatus status = .error (.runtime message) := by
  rw [parseStatus]
  split_ifs
  · exact .inl ⟨true, rfl⟩
  · exact .inl ⟨false, rfl⟩
  · exact .inr ⟨_, rfl⟩

/-- A result without a status or a destination throws a `JSONException`. -/
theorem resultFromJson_cases (result : Object) :
    (((result.getString? platform.json "status").isNone ||
        (result.getString? platform.json "dest_path").isNone) = false ∧
      ((∃ parsed, resultFromJson platform result = .ok parsed) ∨
        ∃ message, resultFromJson platform result = .error (.runtime message))) ∨
    (((result.getString? platform.json "status").isNone ||
        (result.getString? platform.json "dest_path").isNone) = true ∧
      ∃ field, resultFromJson platform result = .error (.json field)) := by
  rw [resultFromJson, getString, getString]
  rcases result.getString? platform.json "status" with _ | status
  · exact .inr ⟨rfl, "status", rfl⟩
  rcases result.getString? platform.json "dest_path" with _ | destPath
  · exact .inr ⟨rfl, "dest_path", rfl⟩
  refine .inl ⟨rfl, ?_⟩
  simp only [bind, Except.bind]
  rcases parseStatus_cases status with ⟨success, hstatus⟩ | ⟨message, hstatus⟩
  · exact .inl ⟨_, by rw [hstatus]; rfl⟩
  · exact .inr ⟨message, by rw [hstatus]⟩

/-- So a receipt with such a result escapes. -/
theorem receiptFromJson_cases (value : Value) :
    (receiptEscapes platform value = false ∧
      ∃ receipt, receiptFromJson platform value = .ok receipt) ∨
    (receiptEscapes platform value = true ∧
      ∃ field, receiptFromJson platform value = .error (.json field)) := by
  rw [receiptEscapes, receiptFromJson]
  rcases value.asObject with _ | item
  · exact .inl ⟨rfl, none, rfl⟩
  rw [Option.any_some]
  dsimp only
  rcases item.optJSONObject "command" with _ | command
  · exact .inl ⟨rfl, none, rfl⟩
  rcases item.optJSONObject "result" with _ | result
  · exact .inl ⟨by simp, none, rfl⟩
  rw [Option.any_some, Option.any_some]
  dsimp only
  rcases commandFromJson_cases platform command with
    ⟨haccepts, parsed, hcommand⟩ | ⟨haccepts, message, hcommand⟩
  · rw [haccepts, Bool.true_and, hcommand]
    rcases resultFromJson_cases platform result with
      ⟨hfields, ⟨parsed', hresult⟩ | ⟨message, hresult⟩⟩ | ⟨hfields, field, hresult⟩
    · exact .inl ⟨hfields, _, by rw [hresult]; rfl⟩
    · exact .inl ⟨hfields, none, by rw [hresult]; rfl⟩
    · exact .inr ⟨hfields, field, by rw [hresult]; rfl⟩
  · exact .inl ⟨by rw [haccepts, Bool.false_and], none, by rw [hcommand]; rfl⟩

variable {platform} {receipts : List Receipt}

/-- The first item, and the others. -/
theorem containedItems_succ {replacement : Nat → Option Value} {count : Nat} :
    ContainedItems platform replacement (count + 1) ↔
    (∀ v ∈ replacement 0, receiptEscapes platform v = false) ∧
      ContainedItems platform (fun i => replacement (i + 1)) count := by
  constructor
  · exact fun h => ⟨h 0 (Nat.succ_pos _), fun i hi => h (i + 1) (Nat.succ_lt_succ hi)⟩
  · rintro ⟨hzero, hsucc⟩ (_ | i) hi
    · exact hzero
    · exact hsucc i (Nat.lt_of_succ_lt_succ hi)

/-- The items are read unless one of them escapes; what was not replaced is among what is read. -/
theorem receiptsFromJson_damaged (replacement : Nat → Option Value)
    (h : ∀ receipt ∈ receipts, receiptFromJson platform (.object (receiptToStateJson receipt)) =
      .ok (some (readBackReceipt receipt))) :
    (ContainedItems platform replacement receipts.length ∧
      ∃ read, receiptsFromJson platform
          ((receipts.map fun r => Value.object (receiptToStateJson r)).mapIdx fun i item =>
            (replacement i).getD item) = .ok read ∧
        ((unreplaced replacement receipts).map readBackReceipt).Sublist read) ∨
    (¬ ContainedItems platform replacement receipts.length ∧
      ∃ field, receiptsFromJson platform
          ((receipts.map fun r => Value.object (receiptToStateJson r)).mapIdx fun i item =>
            (replacement i).getD item) = .error (.json field)) := by
  induction receipts generalizing replacement with
  | nil => exact .inl ⟨fun i hi => absurd hi (Nat.not_lt_zero i), [], rfl, .slnil⟩
  | cons receipt receipts ih =>
    rw [List.length_cons, containedItems_succ, List.map_cons, List.mapIdx_cons, receiptsFromJson,
      unreplaced]
    have hrest := ih (fun i => replacement (i + 1)) fun r hr => h r (List.mem_cons_of_mem _ hr)
    rcases hzero : replacement 0 with _ | v
    · -- The receipt stands.
      rw [Option.getD_none, h receipt List.mem_cons_self]
      rcases hrest with ⟨hcontained, read, hread, hkept⟩ | ⟨hescapes, field, hread⟩
      · refine .inl ⟨⟨by simp, hcontained⟩, readBackReceipt receipt :: read, ?_, ?_⟩
        · simp only [hread, bind, Except.bind]
          rfl
        · exact hkept.cons_cons _
      · refine .inr ⟨fun hboth => hescapes hboth.2, field, ?_⟩
        simp only [hread, bind, Except.bind]
    · rw [Option.getD_some]
      rcases receiptFromJson_cases platform v with
        ⟨hstays, receipt', hreceipt⟩ | ⟨hescapes, field, hreceipt⟩
      · rcases hrest with ⟨hcontained, read, hread, hkept⟩ | ⟨hescapes, field, hread⟩
        · refine .inl ⟨⟨by simpa using hstays, hcontained⟩, receipt'.toList ++ read, ?_, ?_⟩
          · simp only [hreceipt, hread, bind, Except.bind]
            rfl
          · exact hkept.trans (List.sublist_append_right _ _)
        · refine .inr ⟨fun hboth => hescapes hboth.2, field, ?_⟩
          simp only [hreceipt, hread, bind, Except.bind]
      · refine .inr ⟨fun hboth => ?_, field, by rw [hreceipt]; rfl⟩
        rw [hboth.1 v rfl] at hescapes
        exact Bool.false_ne_true hescapes

variable {state : State} {damage : Damage}

/-- What the parts of a damaged file are. -/
theorem stateFromJson_apply : stateFromJson platform (damage.apply (stateToJson state)) = (do
    let active ← activeFromJson platform (some (damage.active.getD
      (state.active.elim .null fun active => .object (activeToJson active))))
    let pending ← receiptsFromJson platform
      ((state.pendingResults.map fun r => Value.object (receiptToStateJson r)).mapIdx fun i item =>
        (damage.pending i).getD item)
    let completed ← receiptsFromJson platform
      ((state.completedReceipts.map fun r => Value.object (receiptToStateJson r)).mapIdx
        fun i item => (damage.completed i).getD item)
    return ⟨active, pending, completed⟩) := by
  simp [stateFromJson, stateToJson, Damage.apply, Object.put, Object.optJSONArray, replaceItems,
    Value.asArray]

/-- **A damaged state is read but for the damage, or not at all.** -/
theorem damaged_cases (hs : Sound platform state) (damage : Damage) :
    (Contained platform state damage ∧ Survives platform state damage) ∨
    (¬ Contained platform state damage ∧ ∃ field,
      stateFromJson platform (damage.apply (stateToJson state)) = .error (.json field)) := by
  rw [Survives, stateFromJson_apply]
  have hactive : ((∀ v ∈ damage.active, activeEscapes platform v = false) ∧ ∃ active,
        activeFromJson platform (some (damage.active.getD
          (state.active.elim .null fun active => .object (activeToJson active)))) = .ok active) ∨
      (¬ (∀ v ∈ damage.active, activeEscapes platform v = false) ∧ ∃ field,
        activeFromJson platform (some (damage.active.getD
          (state.active.elim .null fun active => .object (activeToJson active)))) =
            .error (.json field)) := by
    rcases damage.active with _ | v
    · exact .inl ⟨by simp, state.active, hs.active_fromJson⟩
    · simpa using activeFromJson_cases platform v
  rcases hactive with ⟨hstays, active, hactive⟩ | ⟨hescapes, field, hactive⟩
  swap
  · refine .inr ⟨fun h => hescapes h.active, field, by rw [hactive]; rfl⟩
  rcases receiptsFromJson_damaged damage.pending fun r hr =>
    hs.parsed (List.mem_append_left state.completedReceipts hr) with
    ⟨hpending, pending, hreadPending, hkeptPending⟩ | ⟨hescapes, field, hread⟩
  swap
  · refine .inr ⟨fun h => hescapes h.pending, field, ?_⟩
    simp only [hactive, hread, bind, Except.bind]
  rcases receiptsFromJson_damaged damage.completed fun r hr =>
    hs.parsed (List.mem_append_right state.pendingResults hr) with
    ⟨hcompleted, completed, hreadCompleted, hkeptCompleted⟩ | ⟨hescapes, field, hread⟩
  · refine .inl ⟨⟨hstays, hpending, hcompleted⟩, ⟨active, pending, completed⟩, ?_, hkeptPending,
      hkeptCompleted⟩
    simp only [hactive, hreadPending, hreadCompleted, bind, Except.bind]
    rfl
  · refine .inr ⟨fun h => hescapes h.completed, field, ?_⟩
    simp only [hactive, hreadPending, hread, bind, Except.bind]

/-- The records that are not damaged survive exactly when the damage is contained. -/
theorem survives_iff (hs : Sound platform state) (damage : Damage) :
    Survives platform state damage ↔ Contained platform state damage := by
  rcases damaged_cases hs damage with ⟨hcontained, hsurvives⟩ | ⟨hnot, field, herror⟩
  · exact ⟨fun _ => hcontained, fun _ => hsurvives⟩
  · refine ⟨?_, fun hcontained => absurd hcontained hnot⟩
    rintro ⟨state', hread, -⟩
    rw [herror] at hread
    cases hread

/-- **What was saved is read back, and a damaged file** keeps what was not damaged exactly when no
replaced value escapes. -/
theorem damage_contained_iff (hs : Sound platform state) (damage : Damage) :
    stateFromJson platform (stateToJson state) = .ok (readBackState state) ∧
    (Survives platform state damage ↔ Contained platform state damage) :=
  ⟨stateFromJson_stateToJson hs, survives_iff hs damage⟩

/-- Otherwise the client starts without the receipts it had. -/
theorem load_of_not_contained (hs : Sound platform state)
    (h : ¬ Contained platform state damage) (now : Int) :
    load platform now (damage.apply (stateToJson state)) = {} := by
  rcases damaged_cases hs damage with ⟨hcontained, -⟩ | ⟨-, field, herror⟩
  · exact absurd hcontained h
  · rw [load, herror]

end Damage

/-! ### An `active` without a command -/

/-- A platform that knows one identifier and one address. -/
def knownPlatform : Platform where
  uuidVersion text := if text = "c9bf9e57-1685-4c89-bafb-ff5af830be8a" then some 4 else none
  uri text :=
    if text = "http://server/artifacts/value" then some ⟨some "http", some "server"⟩ else none
  json := .strict

/-- A command of a job. -/
def knownCommand : Command where
  jobId := some "c9bf9e57-1685-4c89-bafb-ff5af830be8a"
  attempt := 1
  artifactId := some "c9bf9e57-1685-4c89-bafb-ff5af830be8a"
  artifactUrl := "http://server/artifacts/value"
  artifactSize := some 42
  artifactSha256 := some (String.ofList (List.replicate 64 'a'))
  bundleFilename := "bundle.zip"
  destPath := "/sdcard/STYLY/content"
  deleteExtras := false

/-- The platform accepts the command. -/
theorem parsed_knownCommand : Parsed knownPlatform knownCommand := by
  constructor <;> decide +kernel

/-- Its result waits in the outbox. -/
def waitingState : State where
  pendingResults := [⟨knownCommand, {
    jobId := knownCommand.jobId, attempt := knownCommand.attempt, success := true
    destPath := knownCommand.destPath, added := 1, completedAt := 7 }⟩]

/-- The state could have been saved. -/
theorem sound_waitingState : Sound knownPlatform waitingState := by
  have hcommand := parseCommand_toJson parsed_knownCommand
  refine ⟨by simp [waitingState], ?_, ?_⟩
  · intro receipt hreceipt
    obtain rfl := List.mem_singleton.1 hreceipt
    exact ⟨_, hcommand⟩
  · intro receipt hreceipt
    obtain rfl := List.mem_singleton.1 hreceipt
    exact ⟨knownCommand, _, hcommand, .success 1 0 0 7⟩

/-- A number in the place of `active` is no harm. -/
theorem damage_contained_number :
    Survives knownPlatform waitingState { active := some (.int 5) } := by
  refine (damage_contained_iff sound_waitingState _).2.2 ⟨?_, ?_, ?_⟩
  · rintro v ⟨⟩
    rfl
  · exact fun i _ v hv => absurd hv (by simp)
  · exact fun i _ v hv => absurd hv (by simp)

/-- An empty object in its place throws a `JSONException`, and the outbox is lost. -/
theorem outbox_lost_with_active :
    Sound knownPlatform waitingState ∧
    ¬ Survives knownPlatform waitingState { active := some (.object []) } ∧
    load knownPlatform 8
      (Damage.apply { active := some (.object []) } (stateToJson waitingState)) = {} := by
  have hnot : ¬ Contained knownPlatform waitingState { active := some (.object []) } := by
    intro h
    exact Bool.noConfusion (h.active (.object []) rfl)
  exact ⟨sound_waitingState, fun h => hnot ((survives_iff sound_waitingState _).1 h),
    load_of_not_contained sound_waitingState hnot 8⟩

end StylyMdm.Client.Codec
