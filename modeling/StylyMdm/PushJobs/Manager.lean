import StylyMdm.PushJobs.StoreOps
import StylyMdm.PushJobs.Uuid

/-!
# The operations of `PushJobManager`

The policy layer of `push_job_manager.py`: queue order, fences and reconciliation. As in
`StylyMdm.PushJobs.StoreOps`, each method that changes the database is a function of the store,
of `now_ms()` and of its arguments into `Except StoreError`.

Fences are shown by snapshots of several jobs, so the operations that write or delete a fence
compute with `visibleJobIds` which jobs get a new revision.

**The queue.** A device offers one row to `claim_next`, the oldest queued one whose job is not
over. It can be claimed if the device is online, has no active row and no fence, and the gate of the
job is open. Of the rows that can be claimed, the one with the least `enqueue_seq` is taken.

**Fences.** A fence is written when a row is given up without knowing what the device did
(`markUnconfirmed`), or when a device reports an execution that no row accounts for
(`addOpaqueFence`). It is lifted by a result, by a report, or by another process identity.

**Reports.** `applyReport` is one transition for what a device says of an execution: it is active in
some phase, it is gone, or it has finished.
-/

namespace StylyMdm.PushJobs

/-- The `attempt` entry of a JSON report. Python's `attempt != 1` also lets `True` pass;
`isinstance(attempt, bool)` tells it apart. -/
inductive AttemptValue
  | one
  | boolTrue
  | other
deriving DecidableEq, Repr

/-- The entries of a client's `active` object that the server reads. A missing or null
`artifact_id` is `none`, one that is not a text is `some none`. -/
structure ActiveReport where
  jobId : Option String := none
  attempt : AttemptValue := .other
  artifactId : Option (Option String) := none
  phase : Option String := none
  legacy : Bool := false
deriving DecidableEq, Repr

/-- `canonical_opaque_job_identity`. -/
def canonicalOpaqueJobIdentity (active : ActiveReport) : Option OpaqueIdentity :=
  if active.attempt ≠ .one then none
  else
    match active.jobId.bind canonicalUuid4 with
    | none => none
    | some jobId =>
      match active.artifactId with
      | none => some (.job jobId none)
      | some none => none
      | some (some artifactId) =>
        (canonicalUuid4 artifactId).map fun artifactId => .job jobId (some artifactId)

/-- `opaque_identity_for_active`. -/
def opaqueIdentityForActive (active : ActiveReport) : OpaqueIdentity :=
  (canonicalOpaqueJobIdentity active).getD (.token "\x7b\"token\":\"unknown-active-job\"\x7d")

/-- `parse_opaque_job_identity` of a stored identity: the job it names, if it names one. A
token names none. -/
def parseOpaqueJobIdentity : OpaqueIdentity → Option (JobId × Option String)
  | .job jobId artifactId =>
    if (OpaqueIdentity.job jobId artifactId).text.length > 2048 then none
    else
      match canonicalOpaqueJobIdentity
          { jobId := some jobId, attempt := .one, artifactId := artifactId.map some } with
      | some (.job jobId artifactId) => some (jobId, artifactId)
      | _ => none
  | .token _ => none

/-- `text[:2000]`. -/
def clip (text : String) : String := String.ofList (text.toList.take 2000)

namespace Store

/-! ### Acceptance and dispatch -/

/-- The row `mark_acceptance_reconciling` writes. -/
def acceptanceExpiredRow (now : Millis) (reconciliationDeadline : Millis) (row : DeviceRow) :
    DeviceRow :=
  { row with
    state := .reconciling
    reconciliationReason := some "command_accept_timeout"
    reconciliationDeadline := some reconciliationDeadline
    updatedAt := now }

/-- `mark_acceptance_reconciling`. The Boolean says whether the row was moved by this call. -/
def markAcceptanceReconciling (s : Store) (now : Millis) (jobId : JobId) (deviceId : DeviceId)
    (expectedAcceptDeadline : Millis) (reconciliationDeadline : Millis) :
    Except StoreError (Store × Bool × JobSnapshot) :=
  match s.device? jobId deviceId with
  | none => .error (.notFound (jobId ++ "/" ++ deviceId))
  | some row =>
    let exactDeadline := row.acceptDeadline = some expectedAcceptDeadline
    if row.state = .reconciling ∧ row.acceptedAt = none ∧ exactDeadline ∧
        row.reconciliationReason = some "command_accept_timeout" then do
      let snapshot ← s.snapshot jobId
      return (s, false, snapshot)
    else if row.state ≠ .dispatching ∨ row.acceptedAt ≠ none ∨ ¬ exactDeadline then
      .error (.conflict "accept deadline no longer owns dispatch")
    else do
      let (s, snapshot) ←
        (s.updateDevice jobId deviceId (acceptanceExpiredRow now reconciliationDeadline)).touchJob
          jobId now
      return (s, true, snapshot)

/-- The smallest `enqueue_seq` among the device's queued rows of non-terminal jobs: the `MIN`
subquery of `claim_next`. -/
def oldestQueued (s : Store) (deviceId : DeviceId) : Option Nat :=
  ((s.devices.rows.filter fun row =>
      row.deviceId = deviceId && row.state = .queued &&
        (s.job? row.jobId).any fun job => isNonTerminalValue job.state).map
    DeviceRow.enqueueSeq).min?

/-- The `WHERE` clause of `claim_next`. -/
def claimable (s : Store) (online : List DeviceId) (row : DeviceRow) : Bool :=
  row.state = .queued && row.deviceId ∈ online &&
    ((s.job? row.jobId).any fun job =>
      job.dispatchEnabled && (job.state = .running || job.state = .reconciling)) &&
    (s.fence? row.deviceId).isNone &&
    !(s.devices.rows.any fun active =>
      active.deviceId = row.deviceId && active.state.isActive) &&
    s.oldestQueued row.deviceId = some row.enqueueSeq

/-- The row `claim_next` selects: the claimable one with the smallest `enqueue_seq`. -/
def claimCandidate (s : Store) (online : List DeviceId) : Option DeviceRow :=
  (s.devices.rows.filter fun row => s.claimable online row).argmin DeviceRow.enqueueSeq

/-- The row `claim_next` writes. -/
def claimedRow (now : Millis) (row : DeviceRow) : DeviceRow :=
  { row with state := .waitingTransfer, queueReason := none, updatedAt := now }

/-- `claim_next`: the claimed assignment with its job's snapshot. The `UPDATE` repeats the
condition `state='queued'`, which holds of the row just selected in the same transaction. -/
def claimNext (indexed : Bool) (s : Store) (now : Millis) (online : List DeviceId) :
    Except StoreError (Store × Option (DeviceRow × JobSnapshot)) :=
  match s.claimCandidate online with
  | none => .ok (s, none)
  | some row =>
    -- `except sqlite3.IntegrityError`: roll back and return `None`
    if indexed && s.activeIndexConflict row.jobId row.deviceId .waitingTransfer then .ok (s, none)
    else do
      let (s, snapshot) ←
        (s.updateDevice row.jobId row.deviceId (claimedRow now)).touchJob row.jobId now
      return (s, some (claimedRow now row, snapshot))

/-- The row `prepare_dispatch` writes. -/
def preparedRow (now : Millis) (protocolMode : ProtocolMode) (liveCapabilities : List String)
    (acceptDeadline : Option Millis) (row : DeviceRow) : DeviceRow :=
  { row with
    state := .dispatching
    protocolMode
    dispatchCapabilitySnapshot := some (sortedSet liveCapabilities)
    acceptDeadline
    updatedAt := now }

/-- `prepare_dispatch`. -/
def prepareDispatch (s : Store) (now : Millis) (jobId : JobId) (deviceId : DeviceId)
    (protocolMode : ProtocolMode) (liveCapabilities : List String)
    (acceptDeadline : Option Millis) : Except StoreError (Store × JobSnapshot) :=
  match s.device? jobId deviceId with
  | none => .error (.notFound (jobId ++ "/" ++ deviceId))
  | some row =>
    if row.attempt ≠ 1 then .error (.conflict "stale_attempt")
    else if !validDeviceTransition row.state .dispatching then
      .error (.invalidTransition
        ("invalid device transition: " ++ row.state.value ++ " -> dispatching"))
    else if row.state ≠ .waitingTransfer then
      -- the `UPDATE … AND state='waiting_transfer'` hits no row
      .error (.conflict "assignment changed before dispatch")
    else
      (s.updateDevice jobId deviceId
        (preparedRow now protocolMode liveCapabilities acceptDeadline)).touchJob jobId now

/-! ### Fences -/

/-- `_visible_job_ids`: the jobs whose revision a change of the device's fence bumps. -/
def visibleJobIds (s : Store) (deviceId : DeviceId) (blockingJobId : Option JobId := none) :
    List JobId :=
  let ids := s.fenceVisibleJobIds deviceId
  let ids :=
    match blockingJobId with
    | none => ids
    | some blocking =>
      if blocking ∉ ids ∧ (s.job? blocking).isSome then ids ++ [blocking] else ids
  match s.fence? deviceId with
  | some { blocker := .unknown _, .. } =>
    match s.latestJob deviceId with
    | none => ids
    | some latest => if latest ∉ ids then ids ++ [latest] else ids
  | _ => ids

/-- `for affected in ids: self.store._increment_revision(conn, affected, timestamp)`. -/
def incrementRevisions (s : Store) (jobIds : List JobId) (timestamp : Millis) : Store :=
  jobIds.foldl (fun s jobId => s.incrementRevision jobId timestamp) s

/-- The loop of `mark_unconfirmed`: bump and rederive every affected job. -/
def touchJobs (s : Store) (jobIds : List JobId) (timestamp : Millis) : Except StoreError Store :=
  jobIds.foldlM (fun s jobId => (s.incrementRevision jobId timestamp).rederiveJob jobId timestamp) s

/-- The row `mark_unconfirmed` writes. -/
def unconfirmedRow (timestamp : Millis) (detail : String) (row : DeviceRow) : DeviceRow :=
  { row with
    state := .unconfirmed
    terminalAt := some timestamp
    updatedAt := timestamp
    failureCode := some "reconciliation_timeout"
    failureDetail := some (clip detail)
    reconciliationReason := none
    reconciliationDeadline := none
    acceptDeadline := none }

/-- The fence `mark_unconfirmed` upserts. -/
def jobFence (timestamp : Millis) (jobId : JobId) (deviceId : DeviceId)
    (protocolMode : ProtocolMode) (processInstanceId : Option String) (detail : String) :
    FenceRow where
  deviceId := deviceId
  blocker := .job jobId
  protocolMode := protocolMode
  blockingProcessInstanceId := processInstanceId
  reason := clip detail
  createdAt := timestamp
  updatedAt := timestamp

/-- `mark_unconfirmed`. -/
def markUnconfirmed (s : Store) (now : Millis) (jobId : JobId) (deviceId : DeviceId)
    (processInstanceId : Option String) (detail : String) (expectedDeadline : Option Millis)
    (observedNow : Option Millis) : Except StoreError (Store × List JobSnapshot) :=
  match s.device? jobId deviceId with
  | none => .error (.notFound (jobId ++ "/" ++ deviceId))
  | some row =>
    if row.attempt ≠ 1 then .error (.conflict "stale_attempt")
    else if row.state ≠ .reconciling then .error (.conflict "assignment is not reconciling")
    else
      let timestamp := observedNow.getD now
      if expectedDeadline.any fun deadline =>
          row.reconciliationDeadline ≠ some deadline || timestamp < deadline then
        .error (.conflict "stale reconciliation deadline")
      else do
        let s := s.updateDevice jobId deviceId (unconfirmedRow timestamp detail)
        let s := s.upsertFence
          (jobFence timestamp jobId deviceId row.protocolMode processInstanceId detail)
        let ids := s.visibleJobIds deviceId (some jobId)
        let s ← s.touchJobs ids timestamp
        let snapshots ← s.snapshots ids
        return (s, snapshots)

/-- The fence `add_opaque_fence` upserts. -/
def opaqueFence (timestamp : Millis) (deviceId : DeviceId) (identity : OpaqueIdentity)
    (protocolMode : ProtocolMode) (processInstanceId : Option String) (reason : String) :
    FenceRow where
  deviceId := deviceId
  blocker := .unknown identity
  protocolMode := protocolMode
  blockingProcessInstanceId := processInstanceId
  reason := clip reason
  createdAt := timestamp
  updatedAt := timestamp

/-- Does the stored fence already say what `add_opaque_fence` is about to write? -/
def sameOpaqueFence (existing fence : FenceRow) : Bool :=
  existing.blocker = fence.blocker && existing.protocolMode = fence.protocolMode &&
    existing.blockingProcessInstanceId = fence.blockingProcessInstanceId &&
    existing.reason = fence.reason

/-- Bump the given jobs and return their snapshots: the closing lines of the operations that
only change a fence. -/
def bumpJobs (s : Store) (jobIds : List JobId) (timestamp : Millis) :
    Except StoreError (Store × List JobSnapshot) := do
  let s := s.incrementRevisions jobIds timestamp
  let snapshots ← s.snapshots jobIds
  return (s, snapshots)

/-- `add_opaque_fence`. -/
def addOpaqueFence (s : Store) (now : Millis) (deviceId : DeviceId)
    (opaqueIdentity : OpaqueIdentity) (protocolMode : ProtocolMode)
    (processInstanceId : Option String) (reason : String) :
    Except StoreError (Store × List JobSnapshot) :=
  if opaqueIdentity.text = "" ∨ opaqueIdentity.text.length > 2048 then
    .error (.conflict "opaque fence identity is invalid")
  else
    let fence := opaqueFence now deviceId opaqueIdentity protocolMode processInstanceId reason
    if (s.fence? deviceId).any fun existing => sameOpaqueFence existing fence then .ok (s, [])
    else
      let s := s.upsertFence fence
      s.bumpJobs (s.visibleJobIds deviceId) now

/-- `clear_fence_on_process_replacement`. A fence without a recorded process is replaced by any
new job-v1 process. -/
def clearFenceOnProcessReplacement (s : Store) (now : Millis) (deviceId : DeviceId)
    (processInstanceId : Option String) (hasJobV1 : Bool) :
    Except StoreError (Store × List JobSnapshot) :=
  match s.fence? deviceId with
  | none => .ok (s, [])
  | some fence =>
    if !hasJobV1 || !truthy processInstanceId then .ok (s, [])
    else if fence.blockingProcessInstanceId = processInstanceId then .ok (s, [])
    else
      let ids := s.visibleJobIds deviceId fence.blockingJobId
      (s.deleteFence deviceId).bumpJobs ids now

/-- Delete the device's fence for `jobId` and bump the jobs that show it: the common end of
`clear_matching_fence`, `settle_late_fenced_result` and `reconcile_report`. -/
def dropJobFence (s : Store) (now : Millis) (jobId : JobId) (deviceId : DeviceId) :
    Except StoreError (Store × List JobSnapshot) :=
  let s := s.deleteFence deviceId
  s.bumpJobs (s.visibleJobIds deviceId (some jobId)) now

/-- Is the device fenced for exactly `(jobId, attempt 1)`? -/
def isFencedFor (s : Store) (jobId : JobId) (deviceId : DeviceId) : Bool :=
  (s.fence? deviceId).any fun fence => fence.blocker = .job jobId

/-- `clear_matching_fence`. -/
def clearMatchingFence (s : Store) (now : Millis) (jobId : JobId) (deviceId : DeviceId)
    (attempt : Nat) : Except StoreError (Store × List JobSnapshot) :=
  if attempt ≠ 1 then .ok (s, [])
  else if !s.isFencedFor jobId deviceId then .ok (s, [])
  else s.dropJobFence now jobId deviceId

/-- `clear_matching_opaque_fence`. -/
def clearMatchingOpaqueFence (s : Store) (now : Millis) (deviceId : DeviceId) (jobId : JobId)
    (attempt : Nat) : Except StoreError (Store × Bool × List JobSnapshot) :=
  match canonicalOpaqueJobIdentity
      { jobId := some jobId, attempt := if attempt = 1 then .one else .other } with
  | some (.job expected _) =>
    match s.fence? deviceId with
    | some { blocker := .unknown identity, protocolMode := .jobV1, .. } =>
      if (parseOpaqueJobIdentity identity).any fun stored => stored.1 = expected then do
        let ids := s.visibleJobIds deviceId
        let (s, snapshots) ← (s.deleteFence deviceId).bumpJobs ids now
        return (s, true, snapshots)
      else .ok (s, false, [])
    | _ => .ok (s, false, [])
  | _ => .ok (s, false, [])

/-- `settle_late_fenced_result`. -/
def settleLateFencedResult (s : Store) (now : Millis) (jobId : JobId) (deviceId : DeviceId)
    (attempt : Nat) : Except StoreError (Store × Bool × List JobSnapshot) :=
  if attempt ≠ 1 then .ok (s, false, [])
  else
    match s.device? jobId deviceId with
    | none => .ok (s, false, [])
    | some row =>
      if row.state ≠ .unconfirmed then .ok (s, false, [])
      else if (s.fence? deviceId).isNone then do
        let snapshot ← s.snapshot jobId
        return (s, true, [snapshot])
      else if !s.isFencedFor jobId deviceId then .ok (s, false, [])
      else do
        let (s, snapshots) ← s.dropJobFence now jobId deviceId
        return (s, true, snapshots)

/-! ### Reconciliation reports -/

/-- The `status` of a `PUSH_RECONCILE_REPORT`. -/
inductive ReportStatus
  | active
  | absent
  | interrupted
  | other (text : String)
deriving DecidableEq, Repr

/-- `phase_map`. -/
def phaseTarget : Option String → Option DeviceState
  | some "downloading" => some .downloading
  | some "validating" => some .validating
  | some "applying" => some .applying
  | _ => none

/-- The outcomes of `reconcile_report`. -/
inductive ReportOutcome
  | fenceCleared
  | active
  | requeued
  | interrupted
deriving DecidableEq, Repr

/-- The one allowed pre-accept replay: the reasons after which an absent command may be sent
again. -/
def replayReason (reason : Option String) : Bool :=
  reason = some "command_accept_timeout" || reason = some "disconnect_before_accept"

/-- May an `absent` report put this row back into the queue? -/
def replayable (dispatchEnabled : Bool) (status : ReportStatus) (row : DeviceRow) : Bool :=
  status = .absent && row.acceptedAt.isNone && replayReason row.reconciliationReason &&
    row.acceptReplayCount < 1 && dispatchEnabled

/-- The row an `active` report writes. -/
def activeRow (now : Millis) (target : DeviceState) (row : DeviceRow) : DeviceRow :=
  { row with
    state := target
    acceptedAt := row.acceptedAt.or (some now)
    acceptDeadline := none
    reconciliationReason := none
    reconciliationDeadline := none
    updatedAt := now }

/-- The row a replayable `absent` report writes. -/
def requeuedRow (now : Millis) (row : DeviceRow) : DeviceRow :=
  { row with
    state := .queued
    queueReason := some "command_accept_replay"
    acceptReplayCount := row.acceptReplayCount + 1
    acceptDeadline := none
    reconciliationReason := none
    reconciliationDeadline := none
    failureCode := none
    failureDetail := none
    updatedAt := now }

/-- The row any other `absent` or `interrupted` report writes. -/
def interruptedRow (now : Millis) (status : ReportStatus) (detail : Option String)
    (row : DeviceRow) : DeviceRow :=
  let text := if status = .interrupted then "interrupted" else "absent"
  { row with
    state := .interrupted
    terminalAt := some now
    failureCode := some (if status = .interrupted then "client_restarted"
      else "client_state_absent")
    failureDetail := some (clip
      (if truthy detail then detail.getD "" else "client reported " ++ text))
    acceptDeadline := none
    reconciliationReason := none
    reconciliationDeadline := none
    updatedAt := now }

/-- Commit a report's row. -/
def applyReport (s : Store) (now : Millis) (jobId : JobId) (deviceId : DeviceId)
    (f : DeviceRow → DeviceRow) (outcome : ReportOutcome)
    (hf : ∀ row, (f row).key = row.key := by intro _; exact Eq.trans rfl rfl) :
    Except StoreError (Store × ReportOutcome × List JobSnapshot) := do
  let (s, snapshot) ← (s.updateDevice jobId deviceId f hf).touchJob jobId now
  return (s, outcome, [snapshot])

/-- `reconcile_report`. -/
def reconcileReport (s : Store) (now : Millis) (jobId : JobId) (deviceId : DeviceId)
    (attempt : Nat) (status : ReportStatus) (phase detail : Option String) :
    Except StoreError (Store × ReportOutcome × List JobSnapshot) :=
  if attempt ≠ 1 then .error (.conflict "stale_attempt")
  else
    match s.device? jobId deviceId, s.job? jobId with
    | some row, some job =>
      if row.attempt ≠ 1 then .error (.conflict "stale_attempt")
      else if row.state = .unconfirmed ∧ (status = .absent ∨ status = .interrupted) then
        if !s.isFencedFor jobId deviceId then
          .error (.conflict "exact reconciliation fence is absent")
        else do
          let (s, snapshots) ← s.dropJobFence now jobId deviceId
          return (s, .fenceCleared, snapshots)
      else if row.state ≠ .reconciling then .error (.conflict "assignment is not reconciling")
      else
        match status with
        | .active =>
          match phaseTarget phase with
          | none => .error (.conflict "invalid active phase")
          | some target => s.applyReport now jobId deviceId (activeRow now target) .active
        | .absent | .interrupted =>
          if replayable job.dispatchEnabled status row then
            s.applyReport now jobId deviceId (requeuedRow now) .requeued
          else
            s.applyReport now jobId deviceId (interruptedRow now status detail) .interrupted
        | .other _ => .error (.conflict "invalid reconciliation status")
    | _, _ => .error (.notFound (jobId ++ "/" ++ deviceId))

/-! ### Missing artifacts at start-up -/

/-- The text of the `artifact_missing` failure. -/
def missingDetail (storageName : String) : String :=
  "referenced immutable artifact " ++ storageName ++ " is missing"

/-- The row of a `ready` job whose artifact file is gone. -/
def artifactMissingJob (now : Millis) (storageName : String) (job : JobRow) : JobRow :=
  { job with
    state := .failed
    dispatchEnabled := false
    failureCode := some "artifact_missing"
    failureDetail := some (missingDetail storageName)
    terminalAt := some now
    revision := job.revision + 1
    updatedAt := now }

/-- The states whose rows cannot proceed without the artifact. -/
def needsArtifact (state : DeviceState) : Bool :=
  state ∈ [DeviceState.queued, .waitingTransfer, .dispatching, .downloading]

/-- The row of a dispatched assignment whose artifact file is gone. -/
def artifactMissingRow (now : Millis) (storageName : String) (row : DeviceRow) : DeviceRow :=
  { row with
    state := .failed
    terminalAt := some now
    failureCode := some "artifact_missing"
    failureDetail := some (missingDetail storageName)
    updatedAt := now }

/-- The jobs whose artifact file is missing, with the name of the file. -/
def missingArtifacts (s : Store) (isFile : String → Bool) : List (JobRow × String) :=
  s.jobs.rows.filterMap fun job =>
    if job.state ∈ [JobState.ready, .running, .reconciling] then
      match job.artifactId.bind s.artifacts.find? with
      | some artifact =>
        if isFile artifact.storageName then none else some (job, artifact.storageName)
      | none => none
    else none

/-- The body of the loop of `reconcile_missing_artifacts_sync`. -/
def failMissingArtifact (now : Millis) (s : Store) (missing : JobRow × String) :
    Except StoreError Store :=
  let (job, storageName) := missing
  if job.state = .ready then .ok (s.updateJob job.jobId (artifactMissingJob now storageName))
  else
    let s := s.updateDevices (fun row => row.jobId = job.jobId && needsArtifact row.state)
      (artifactMissingRow now storageName)
    (s.incrementRevision job.jobId now).rederiveJob job.jobId now

/-- `reconcile_missing_artifacts_sync`; `isFile` tells which names exist in the artifact
root. -/
def reconcileMissingArtifactsSync (s : Store) (now : Millis) (isFile : String → Bool) :
    Except StoreError (Store × List JobSnapshot) := do
  let missing := s.missingArtifacts isFile
  let s ← missing.foldlM (failMissingArtifact now) s
  let snapshots ← s.snapshots (missing.map fun entry => entry.1.jobId)
  return (s, snapshots)

end Store

end StylyMdm.PushJobs
