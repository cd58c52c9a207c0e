import StylyMdm.PushJobs.Store

/-!
# The operations of `PushJobStore`

One definition per method of `push_job_store.py` that changes the database, each a function of
the store, of the value of `now_ms()` the transaction reads, and of the method's arguments.
The result holds the committed store and what the method returns; an exception leaves the
store as it was.

`indexed` says whether the partial unique index `ux_push_job_device_active` is in force. It
only matters where a row enters an active state: every other update keeps an active row
active or makes it inactive.

Each new row is a pure function of the old one, with a name of its own (`transitionedRow`,
`settledRow`, `recoverRow` and others). The operation around it has the checks, in the order of the
source, and the closing touch of the job. Where the order of two checks decides which exception is
raised, it is the source's.
-/

namespace StylyMdm.PushJobs

/-- `sorted(set(values))`, the content of the capability columns. -/
def sortedSet (values : List String) : List String :=
  values.dedup.insertionSort (· ≤ ·)

namespace Store

/-- Would giving row `(jobId, deviceId)` the state `target` put two rows of the device into
the index `ux_push_job_device_active`? -/
def activeIndexConflict (s : Store) (jobId : JobId) (deviceId : DeviceId)
    (target : DeviceState) : Bool :=
  target.isActive && s.devices.rows.any fun row =>
    row.deviceId = deviceId && row.key ≠ (jobId, deviceId) && row.state.isActive

/-! ### Creating a job -/

/-- `INSERT INTO push_job_devices`: the primary key and the unique `enqueue_seq` are checked. -/
def insertDevice (s : Store) (row : DeviceRow) : Except StoreError Store :=
  if s.devices.rows.any fun other => other.enqueueSeq = row.enqueueSeq then .error .integrityError
  else
    match s.devices.insert? row with
    | none => .error .integrityError
    | some devices => .ok { s with devices }

/-- The device row `create_job` inserts for its target number `ordinal`. -/
def newDeviceRow (now : Millis) (jobId : JobId) (startSeq ordinal : Nat) (deviceId : DeviceId)
    (protocol : ProtocolMode) (capabilities : List String) : DeviceRow where
  jobId := jobId
  deviceId := deviceId
  enqueueSeq := startSeq + ordinal
  targetOrdinal := ordinal
  protocolMode := protocol
  createCapabilitySnapshot := sortedSet capabilities
  state := .queued
  queueReason := some "awaiting_dispatch"
  updatedAt := now

/-- The loop of `create_job` over the target devices: `enqueue_seq` counts up from
`_next_enqueue_seq`, `target_ordinal` from zero. -/
def insertTargets (targetProtocols : DeviceId → Option (ProtocolMode × List String))
    (now : Millis) (jobId : JobId) (startSeq : Nat) :
    List DeviceId → Nat → Store → Except StoreError Store
  | [], _, s => .ok s
  | deviceId :: rest, ordinal, s =>
    match targetProtocols deviceId with
    | none => .error (.keyError deviceId)
    | some (protocol, capabilities) => do
      let s ← s.insertDevice
        (newDeviceRow now jobId startSeq ordinal deviceId protocol capabilities)
      insertTargets targetProtocols now jobId startSeq rest (ordinal + 1) s

/-- The job row `create_job` inserts. -/
def newJobRow (now : Millis) (jobId : JobId) (request : CanonicalCreateRequest)
    (createTimeoutMs : Nat) : JobRow where
  jobId := jobId
  clientRequestId := request.clientRequestId
  requestFingerprint := request.fingerprint
  revision := 1
  state := .created
  mode := request.mode
  destPath := request.destPath
  sourceLabel := request.source.displayName
  declaredFileCount := request.source.declaredFileCount
  declaredTotalBytes := request.source.declaredTotalBytes
  createdAt := now
  createExpiresAt := now + createTimeoutMs
  updatedAt := now

/-- `create_job`. `jobId` is the fresh `uuid4()`; a collision would break the primary key. The
Boolean says whether the job is new. -/
def createJob (s : Store) (now : Millis) (jobId : JobId) (request : CanonicalCreateRequest)
    (targetProtocols : DeviceId → Option (ProtocolMode × List String))
    (createTimeoutMs : Nat) : Except StoreError (Store × Bool × JobSnapshot) :=
  match s.jobs.rows.find? fun job => job.clientRequestId = request.clientRequestId with
  | some existing =>
    if existing.requestFingerprint ≠ request.fingerprint then
      .error (.conflict "client_request_id was already used for a different request")
    else do
      let snapshot ← s.snapshot existing.jobId
      return (s, false, snapshot)
  | none =>
    match s.jobs.insert? (newJobRow now jobId request createTimeoutMs) with
    | none => .error .integrityError
    | some jobs => do
      -- `_next_enqueue_seq(conn, len(request.target_devices))`
      let startSeq := s.nextEnqueueSeq
      let s := { s with jobs, nextEnqueueSeq := startSeq + request.targetDevices.length }
      let s ← insertTargets targetProtocols now jobId startSeq request.targetDevices 0 s
      let snapshot ← s.snapshot jobId
      return (s, true, snapshot)

/-! ### The upload and the dispatch gate -/

/-- The row of a job whose upload did not start in time. -/
def uploadNotStarted (now : Millis) (job : JobRow) : JobRow :=
  { job with
    state := .interrupted
    revision := job.revision + 1
    updatedAt := now
    terminalAt := some now
    failureCode := some "upload_not_started_timeout"
    failureDetail := some "upload did not start before create_expires_at" }

/-- The row of a job whose upload has started. -/
def uploadStarted (now : Millis) (job : JobRow) : JobRow :=
  { job with
    state := .uploading
    revision := job.revision + 1
    uploadStartedAt := some now
    updatedAt := now }

/-- What `start_upload` commits: the upload has started, or the deadline has passed and
`UploadDeadlineExpired` is raised after the commit. -/
inductive UploadStart
  | started (snapshot : JobSnapshot)
  | deadlineExpired (snapshot : JobSnapshot)
deriving DecidableEq, Repr

/-- `start_upload`. -/
def startUpload (s : Store) (now : Millis) (jobId : JobId) :
    Except StoreError (Store × UploadStart) :=
  match s.job? jobId with
  | none => .error (.notFound jobId)
  | some job =>
    if job.state ≠ .created then
      .error (.conflict ("job is " ++ job.state.value ++ ", not created"))
    else if job.createExpiresAt ≤ now then do
      let s := s.updateJob jobId (uploadNotStarted now)
      let snapshot ← s.snapshot jobId
      return (s, .deadlineExpired snapshot)
    else do
      let s := s.updateJob jobId (uploadStarted now)
      let snapshot ← s.snapshot jobId
      return (s, .started snapshot)

/-- The row of a job whose upload is complete. -/
def packagingStarted (now : Millis) (actualFileCount : Nat) (actualTotalBytes : Nat)
    (job : JobRow) : JobRow :=
  { job with
    state := .packaging
    revision := job.revision + 1
    updatedAt := now
    actualFileCount := some actualFileCount
    actualTotalBytes := some actualTotalBytes
    packagingStartedAt := some now }

/-- `mark_packaging`, the one use of `_simple_job_transition`. -/
def markPackaging (s : Store) (now : Millis) (jobId : JobId) (actualFileCount : Nat)
    (actualTotalBytes : Nat) : Except StoreError (Store × JobSnapshot) :=
  match s.job? jobId with
  | none => .error (.notFound jobId)
  | some job =>
    if job.state ≠ .uploading then
      .error (.conflict ("job is " ++ job.state.value ++ ", expected uploading"))
    else if !validJobTransition job.state .packaging then
      .error (.invalidTransition "invalid job transition")
    else do
      let s := s.updateJob jobId (packagingStarted now actualFileCount actualTotalBytes)
      let snapshot ← s.snapshot jobId
      return (s, snapshot)

/-- The mapping `publish_artifact` takes. -/
structure PublishedArtifact where
  artifactId : String
  storageName : String
  displayFilename : String
  byteSize : Nat
  sha256 : String
  entryCount : Nat
deriving DecidableEq, Repr

/-- The row `publish_artifact` inserts. -/
def PublishedArtifact.row (now : Millis) (artifact : PublishedArtifact) : ArtifactRow where
  artifactId := artifact.artifactId
  storageName := artifact.storageName
  displayFilename := artifact.displayFilename
  byteSize := artifact.byteSize
  sha256 := artifact.sha256
  entryCount := artifact.entryCount
  createdAt := now

/-- The row of a job whose artifact is published. -/
def artifactReady (now : Millis) (artifactId : String) (job : JobRow) : JobRow :=
  { job with
    state := .ready
    artifactId := some artifactId
    readyAt := some now
    revision := job.revision + 1
    updatedAt := now }

/-- `publish_artifact`; `storage_name` is unique. -/
def publishArtifact (s : Store) (now : Millis) (jobId : JobId) (artifact : PublishedArtifact) :
    Except StoreError (Store × JobSnapshot) :=
  match s.job? jobId with
  | none => .error (.notFound jobId)
  | some job =>
    if job.state ≠ .packaging then
      .error (.conflict ("job is " ++ job.state.value ++ ", not packaging"))
    else if s.artifacts.rows.any fun row => row.storageName = artifact.storageName then
      .error .integrityError
    else
      match s.artifacts.insert? (artifact.row now) with
      | none => .error .integrityError
      | some artifacts => do
        let s := { s with artifacts }.updateJob jobId (artifactReady now artifact.artifactId)
        let snapshot ← s.snapshot jobId
        return (s, snapshot)

/-- The row `fail_pre_dispatch` writes. -/
def preDispatchFailed (now : Millis) (state : JobState) (code detail : String) (job : JobRow) :
    JobRow :=
  { job with
    state
    revision := job.revision + 1
    updatedAt := now
    terminalAt := some now
    failureCode := some code
    failureDetail := some detail }

/-- `fail_pre_dispatch`. -/
def failPreDispatch (s : Store) (now : Millis) (jobId : JobId) (state : JobState)
    (code detail : String) : Except StoreError (Store × JobSnapshot) :=
  if state ≠ .failed ∧ state ≠ .interrupted then
    .error (.valueError "pre-dispatch failure must be failed or interrupted")
  else
    match s.job? jobId with
    | none => .error (.notFound jobId)
    | some job =>
      if !validJobTransition job.state state then
        .error (.invalidTransition
          ("invalid job transition: " ++ job.state.value ++ " -> " ++ state.value))
      else do
        let s := s.updateJob jobId (preDispatchFailed now state code detail)
        let snapshot ← s.snapshot jobId
        return (s, snapshot)

/-- The row of a job whose gate is opened. -/
def gateOpened (now : Millis) (job : JobRow) : JobRow :=
  { job with
    state := if job.state = .ready then .running else job.state
    dispatchEnabled := true
    dispatchPausedReason := none
    dispatchStartedAt := job.dispatchStartedAt.or (some now)
    revision := job.revision + 1
    updatedAt := now }

/-- `enable_dispatch`. The Boolean says whether the gate was opened by this call. -/
def enableDispatch (s : Store) (now : Millis) (jobId : JobId) :
    Except StoreError (Store × Bool × JobSnapshot) :=
  match s.job? jobId with
  | none => .error (.notFound jobId)
  | some job =>
    if job.state ∈ [JobState.ready, .running, .reconciling] then
      if job.dispatchEnabled then do
        let snapshot ← s.snapshot jobId
        return (s, false, snapshot)
      else do
        let s := s.updateJob jobId (gateOpened now)
        let snapshot ← s.snapshot jobId
        return (s, true, snapshot)
    else if job.state.isTerminal then do
      let snapshot ← s.snapshot jobId
      return (s, false, snapshot)
    else .error (.conflict ("job cannot be dispatched from state " ++ job.state.value))

/-! ### Device rows -/

/-- The `fields` of `transition_device`, one optional new value for each allowed column. -/
structure DeviceFields where
  queueReason : Option (Option String) := none
  acceptReplayCount : Option Nat := none
  validatedOffset : Option Nat := none
  acceptDeadline : Option (Option Millis) := none
  acceptedAt : Option (Option Millis) := none
  transferCompletedAt : Option (Option Millis) := none
  validationStartedAt : Option (Option Millis) := none
  validationCompletedAt : Option (Option Millis) := none
  applyStartedAt : Option (Option Millis) := none
  terminalAt : Option (Option Millis) := none
  failureCode : Option (Option String) := none
  failureDetail : Option (Option String) := none
  added : Option (Option Nat) := none
  updated : Option (Option Nat) := none
  deleted : Option (Option Nat) := none
  reconciliationReason : Option (Option String) := none
  reconciliationDeadline : Option (Option Millis) := none
  dispatchCapabilitySnapshot : Option (Option (List String)) := none
deriving DecidableEq, Repr

/-- The `SET` list built from the given fields. -/
def DeviceFields.apply (fields : DeviceFields) (row : DeviceRow) : DeviceRow :=
  { row with
    queueReason := fields.queueReason.getD row.queueReason
    acceptReplayCount := fields.acceptReplayCount.getD row.acceptReplayCount
    validatedOffset := fields.validatedOffset.getD row.validatedOffset
    acceptDeadline := fields.acceptDeadline.getD row.acceptDeadline
    acceptedAt := fields.acceptedAt.getD row.acceptedAt
    transferCompletedAt := fields.transferCompletedAt.getD row.transferCompletedAt
    validationStartedAt := fields.validationStartedAt.getD row.validationStartedAt
    validationCompletedAt := fields.validationCompletedAt.getD row.validationCompletedAt
    applyStartedAt := fields.applyStartedAt.getD row.applyStartedAt
    terminalAt := fields.terminalAt.getD row.terminalAt
    failureCode := fields.failureCode.getD row.failureCode
    failureDetail := fields.failureDetail.getD row.failureDetail
    added := fields.added.getD row.added
    updated := fields.updated.getD row.updated
    deleted := fields.deleted.getD row.deleted
    reconciliationReason := fields.reconciliationReason.getD row.reconciliationReason
    reconciliationDeadline := fields.reconciliationDeadline.getD row.reconciliationDeadline
    dispatchCapabilitySnapshot :=
      fields.dispatchCapabilitySnapshot.getD row.dispatchCapabilitySnapshot }

/-- The row `transition_device` writes: a terminal target gets `terminal_at` unless the caller
gave one. -/
def transitionedRow (now : Millis) (target : DeviceState) (fields : DeviceFields)
    (row : DeviceRow) : DeviceRow :=
  let terminalAt :=
    if target.isTerminal && fields.terminalAt.isNone then some (some now) else fields.terminalAt
  { fields with terminalAt }.apply { row with state := target, updatedAt := now }

/-- `transition_device`. -/
def transitionDevice (indexed : Bool) (s : Store) (now : Millis) (jobId : JobId)
    (deviceId : DeviceId) (expected : Option (List DeviceState)) (target : DeviceState)
    (fields : DeviceFields) (allowTerminalIdempotent : Bool := false) :
    Except StoreError (Store × JobSnapshot) :=
  match s.device? jobId deviceId with
  | none => .error (.notFound (jobId ++ "/" ++ deviceId))
  | some row =>
    if row.state = target ∧ allowTerminalIdempotent then do
      let snapshot ← s.snapshot jobId
      return (s, snapshot)
    else if expected.any fun states => row.state ∉ states then
      .error (.conflict ("device assignment is " ++ row.state.value ++ ", expected one of " ++
        ", ".intercalate ((expected.getD []).map DeviceState.value)))
    else if !validDeviceTransition row.state target then
      .error (.invalidTransition
        ("invalid device transition: " ++ row.state.value ++ " -> " ++ target.value))
    else if indexed && s.activeIndexConflict jobId deviceId target then .error .integrityError
    else (s.updateDevice jobId deviceId (transitionedRow now target fields)).touchJob jobId now

/-- `mark_reconciling`. -/
def markReconciling (indexed : Bool) (s : Store) (now : Millis) (jobId : JobId)
    (deviceId : DeviceId) (expected : List DeviceState) (reason : String) (deadline : Millis) :
    Except StoreError (Store × JobSnapshot) :=
  s.transitionDevice indexed now jobId deviceId (some expected) .reconciling
    { reconciliationReason := some (some reason)
      reconciliationDeadline := some (some deadline)
      acceptDeadline := some none }

/-- A terminal result as `settle_result` takes it. -/
structure TerminalResult where
  success : Bool
  added : Nat := 0
  updated : Nat := 0
  deleted : Nat := 0
  failureCode : Option String := none
  failureDetail : Option String := none
deriving DecidableEq, Repr

/-- The state a result settles a row in. -/
def TerminalResult.target (result : TerminalResult) : DeviceState :=
  if result.success then .succeeded else .failed

/-- Does a settled row carry exactly this result? -/
def sameResult (row : DeviceRow) (result : TerminalResult) : Bool :=
  row.state = result.target && row.failureCode = result.failureCode &&
    row.failureDetail = result.failureDetail && row.added = some result.added &&
    row.updated = some result.updated && row.deleted = some result.deleted

/-- The states `settle_result` settles a row from. -/
def settleAllowed (state : DeviceState) : Bool :=
  state ∈ [DeviceState.dispatching, .downloading, .validating, .applying, .reconciling]

/-- The row `settle_result` writes. -/
def settledRow (now : Millis) (result : TerminalResult) (row : DeviceRow) : DeviceRow :=
  { row with
    state := result.target
    queueReason := none
    updatedAt := now
    terminalAt := some now
    failureCode := result.failureCode
    failureDetail := result.failureDetail
    added := some result.added
    updated := some result.updated
    deleted := some result.deleted
    acceptDeadline := none
    reconciliationReason := none
    reconciliationDeadline := none }

/-- `DELETE FROM push_device_fences WHERE device_id=? AND blocking_job_id=? AND
blocking_attempt=?`. -/
def deleteJobFence (s : Store) (deviceId : DeviceId) (jobId : JobId) : Store :=
  { s with
    fences := s.fences.delete fun fence =>
      fence.deviceId = deviceId && fence.blocker = .job jobId }

/-- `settle_result`. The result is whether it was accepted, and the reason when it was not. -/
def settleResult (s : Store) (now : Millis) (jobId : JobId) (deviceId : DeviceId)
    (attempt : Nat) (result : TerminalResult) :
    Except StoreError (Store × Bool × Option String × JobSnapshot) :=
  if attempt ≠ 1 then .error (.conflict "stale_attempt")
  else
    match s.device? jobId deviceId with
    | none => .error (.notFound (jobId ++ "/" ++ deviceId))
    | some row =>
      if row.attempt ≠ attempt then do
        let snapshot ← s.snapshot jobId
        return (s, false, some "stale_attempt", snapshot)
      else if row.state.isTerminal then do
        let same := sameResult row result
        let snapshot ← s.snapshot jobId
        return (s, same, if same then none else some "conflicting_terminal_result", snapshot)
      else if !settleAllowed row.state then do
        let snapshot ← s.snapshot jobId
        return (s, false, some "unexpected_result_state", snapshot)
      else do
        let s := s.updateDevice jobId deviceId (settledRow now result)
        let (s, snapshot) ← (s.deleteJobFence deviceId jobId).touchJob jobId now
        return (s, true, none, snapshot)

/-! ### Expiry and crash recovery -/

/-- `expire_created`. -/
def expireCreated (s : Store) (now : Millis) (jobId : JobId)
    (expectedDeadline : Option Millis) : Except StoreError (Store × Option JobSnapshot) :=
  match s.job? jobId with
  | none => .ok (s, none)
  | some job =>
    if job.state ≠ .created then .ok (s, none)
    else if expectedDeadline.any fun deadline => job.createExpiresAt ≠ deadline then .ok (s, none)
    else if now < job.createExpiresAt then .ok (s, none)
    else do
      let s := s.updateJob jobId (uploadNotStarted now)
      let snapshot ← s.snapshot jobId
      return (s, some snapshot)

/-- The row of a job whose upload or packaging a restart cut short. -/
def uploadCutShort (now : Millis) (job : JobRow) : JobRow :=
  { job with
    state := .interrupted
    revision := job.revision + 1
    updatedAt := now
    terminalAt := some now
    failureCode := some "server_restart"
    failureDetail := some "server restarted during non-resumable upload or packaging" }

/-- The row of a dispatched job after a restart: its gate is closed. -/
def dispatchPaused (now : Millis) (job : JobRow) : JobRow :=
  { job with
    dispatchEnabled := false
    dispatchPausedReason := some "server_restart"
    revision := job.revision + 1
    updatedAt := now }

/-- What the first loop of `recover_startup_sync` makes of a job row; `none` when it leaves
the job untouched. -/
def recoverJob (now : Millis) (job : JobRow) : Option JobRow :=
  match job.state with
  | .created => if job.createExpiresAt ≤ now then some (uploadNotStarted now job) else none
  | .uploading | .packaging => some (uploadCutShort now job)
  | .running | .reconciling => some (dispatchPaused now job)
  | _ => none

/-- A row that a restart leaves in doubt. -/
def restartReconciling (now : Millis) (reason : String) (timeout : Nat) (row : DeviceRow) :
    DeviceRow :=
  { row with
    state := .reconciling
    reconciliationReason := some reason
    reconciliationDeadline := some (now + timeout)
    acceptDeadline := none
    updatedAt := now }

/-- What the second loop of `recover_startup_sync` makes of a device row. -/
def recoverRow (now : Millis) (acceptTimeout timeout : Nat) (row : DeviceRow) :
    Option DeviceRow :=
  match row.state with
  | .waitingTransfer =>
    some { row with state := .queued, queueReason := some "dispatch_paused", updatedAt := now }
  | .dispatching =>
    some (restartReconciling now "server_restart_before_accept" acceptTimeout row)
  | .downloading | .validating | .applying =>
    some (restartReconciling now "server_restart_after_accept" timeout row)
  | .reconciling =>
    if row.acceptedAt.isNone then
      some (restartReconciling now "server_restart_before_accept" acceptTimeout row)
    else some (restartReconciling now "server_restart_after_accept" timeout row)
  | _ => none

theorem recoverJob_jobId (now : Millis) (job : JobRow) :
    ((recoverJob now job).getD job).jobId = job.jobId := by
  unfold recoverJob
  split
  · split <;> rfl
  all_goals rfl

theorem recoverRow_key (now : Millis) (acceptTimeout timeout : Nat) (row : DeviceRow) :
    ((recoverRow now acceptTimeout timeout row).getD row).key = row.key := by
  unfold recoverRow
  split
  all_goals first
    | rfl
    | (split <;> rfl)

/-- `for job_id in touched: self._rederive_job(conn, job_id, timestamp)`. -/
def rederiveJobs (s : Store) (jobIds : List JobId) (timestamp : Millis) :
    Except StoreError Store :=
  jobIds.foldlM (fun s jobId => s.rederiveJob jobId timestamp) s

/-- The store after the two loops of `recover_startup_sync`, before the jobs are rederived. -/
def recoverRows (s : Store) (now : Millis) (acceptTimeout timeout : Nat) : Store :=
  { s with
    jobs := s.jobs.update (fun _ => true) (fun job => (recoverJob now job).getD job)
      (recoverJob_jobId now)
    devices := s.devices.update (fun _ => true)
      (fun row => (recoverRow now acceptTimeout timeout row).getD row)
      (recoverRow_key now acceptTimeout timeout) }

/-- The set `touched` of `recover_startup_sync`: the jobs a loop wrote, or of whose rows it
wrote one. -/
def recoveryTouched (s : Store) (now : Millis) (acceptTimeout timeout : Nat) : List JobId :=
  ((s.jobs.rows.filter fun job => (recoverJob now job).isSome).map JobRow.jobId ++
    (s.devices.rows.filter fun row => (recoverRow now acceptTimeout timeout row).isSome).map
      DeviceRow.jobId).dedup

/-- `recover_startup_sync`: the snapshots of the touched jobs in order of their ids, and the
jobs whose work directories are to be cleaned. -/
def recoverStartupSync (s : Store) (now : Millis) (acceptReconciliationTimeoutMs : Nat)
    (reconciliationTimeoutMs : Nat) :
    Except StoreError (Store × List JobSnapshot × List JobId) := do
  let cleanupJobs := (s.jobs.rows.filter fun job =>
    (recoverJob now job).any (·.state = .interrupted)).map JobRow.jobId
  let touched := s.recoveryTouched now acceptReconciliationTimeoutMs reconciliationTimeoutMs
  let s ← (s.recoverRows now acceptReconciliationTimeoutMs reconciliationTimeoutMs).rederiveJobs
    touched now
  let snapshots ← s.snapshots (touched.insertionSort (· ≤ ·))
  return (s, snapshots, cleanupJobs)

end Store

end StylyMdm.PushJobs
