import StylyMdm.PushJobs.WellFormed

/-!
# The operations as the runtime issues them

`PushRuntime` and `PushScheduler` do not call the store with arbitrary arguments. A `RuntimeCall`
is one of their call sites, with the data that varies there: which state `transition_device`
expects, which one it writes and which fields it sets are fixed by the site. What a call consumed
is part of it too — a terminal result, a reconciliation report, a registration — since a fence may
only be lifted by such evidence. `RuntimeCall.op` gives the operation, `RuntimeCall.Issued` what
the caller has established before it calls.

What a caller establishes is what it tests in the same transaction or under a lock that it still
holds, not what it has read once: between two calls of one coroutine any other calls can commit. So
a run is a list of calls in any order (`RuntimeRun`), and a result that holds of every such run
holds whatever the scheduling of the coroutines is.
-/

namespace StylyMdm.PushJobs

open Store (DeviceFields)

/-- The states `_fail_current` is called with. -/
inductive FailScope
  | waiting
  | dispatching
  | unanswered
  | reconciling
deriving DecidableEq, Repr

/-- The states a row may be failed from. -/
def FailScope.expected : FailScope → List DeviceState
  | .waiting => [.waitingTransfer]
  | .dispatching => [.dispatching]
  | .unanswered => [.dispatching, .reconciling]
  | .reconciling => [.reconciling]

/-- The call sites of `transition_device`. `time` is the value of `now_ms()` the caller puts into
a field. -/
inductive TransitionSite
  /-- `register_device` and `disconnect_device`: the session of a waiting row is gone. -/
  | connectionLost
  /-- `_registration_active_snapshots`: the reported artifact is not the assigned one. -/
  | artifactMismatch (current : DeviceState)
  /-- `_handle_owned_legacy_message`, `DOWNLOAD_COMPLETE`. -/
  | legacyDownloadComplete (time : Millis)
  /-- `_handle_transfer_complete`. -/
  | transferComplete (time : Millis)
  /-- `_handle_validation_complete`. -/
  | validationComplete (time : Millis)
  /-- `_handle_phase`. -/
  | applying (time : Millis)
  /-- `_dispatch_assignment_inner`, after a legacy command was sent. -/
  | legacySent (time : Millis)
  /-- `_await_acceptance`, outcome `accepted`. -/
  | accepted (time : Millis)
  /-- `_recover_unexpected_dispatch_failure` of a waiting row. -/
  | dispatchRecovery (error : String)
  /-- `_handle_busy`: the device is busy with another known execution. -/
  | busyRequeue
  /-- `_handle_busy`: the device is busy with this very execution. -/
  | busySame (time : Millis)
  /-- `_requeue_after_send_race`. -/
  | sendRace (detail : String)
  /-- `_fail_current`. -/
  | failCurrent (scope : FailScope) (code detail : String)
deriving DecidableEq, Repr

namespace TransitionSite

/-- The `expected` argument. -/
def expected : TransitionSite → List DeviceState
  | .connectionLost | .dispatchRecovery _ => [.waitingTransfer]
  | .artifactMismatch current => [current]
  | .legacyDownloadComplete _ | .transferComplete _ => [.downloading]
  | .validationComplete _ => [.validating]
  | .applying _ => [.validating, .reconciling]
  | .legacySent _ | .sendRace _ => [.dispatching]
  | .accepted _ | .busyRequeue | .busySame _ => [.dispatching, .reconciling]
  | .failCurrent scope _ _ => scope.expected

/-- The `target` argument. -/
def target : TransitionSite → DeviceState
  | .connectionLost | .dispatchRecovery _ | .busyRequeue | .sendRace _ => .queued
  | .artifactMismatch _ | .failCurrent _ _ _ => .failed
  | .legacyDownloadComplete _ | .transferComplete _ | .validationComplete _ => .validating
  | .applying _ => .applying
  | .legacySent _ | .accepted _ | .busySame _ => .downloading

/-- The `fields` argument. -/
def fields : TransitionSite → DeviceFields
  | .connectionLost => { queueReason := some (some "awaiting_dispatch") }
  | .artifactMismatch _ =>
    { failureCode := some (some "artifact_identity_mismatch")
      failureDetail := some (some
        "REGISTER active artifact did not match the canonical assignment")
      acceptDeadline := some none
      reconciliationReason := some none
      reconciliationDeadline := some none }
  | .legacyDownloadComplete time => { transferCompletedAt := some (some time) }
  | .transferComplete time =>
    { transferCompletedAt := some (some time)
      acceptDeadline := some none
      reconciliationReason := some none
      reconciliationDeadline := some none }
  | .validationComplete time => { validationCompletedAt := some (some time) }
  | .applying time =>
    { applyStartedAt := some (some time)
      reconciliationReason := some none
      reconciliationDeadline := some none }
  | .legacySent time | .busySame time =>
    { acceptedAt := some (some time), acceptDeadline := some none }
  | .accepted time =>
    { acceptedAt := some (some time)
      acceptDeadline := some none
      reconciliationReason := some none
      reconciliationDeadline := some none }
  | .dispatchRecovery error =>
    { queueReason := some (some "dispatch_recovery")
      failureCode := some none
      failureDetail := some (some (clip error)) }
  | .busyRequeue =>
    { queueReason := some (some "same_device_job"), acceptDeadline := some none }
  | .sendRace detail =>
    { queueReason := some (some "awaiting_dispatch")
      acceptDeadline := some none
      failureCode := some none
      failureDetail := some (some (clip detail)) }
  | .failCurrent _ code detail =>
    { failureCode := some (some code)
      failureDetail := some (some (clip detail))
      acceptDeadline := some none
      reconciliationReason := some none
      reconciliationDeadline := some none }

/-- The call. -/
def op (site : TransitionSite) (jobId : JobId) (deviceId : DeviceId) : Op :=
  .transitionDevice jobId deviceId (some site.expected) site.target site.fields false

end TransitionSite

/-- The `reason` of the call sites of `mark_reconciling`. -/
inductive ReconcilingReason
  | disconnectBeforeAccept
  | deviceDisconnect
  | transferTimeout
  | unexpectedDispatchFailure
deriving DecidableEq, Repr

/-- The `reason` that is written to the row. -/
def ReconcilingReason.text : ReconcilingReason → String
  | .disconnectBeforeAccept => "disconnect_before_accept"
  | .deviceDisconnect => "device_disconnect"
  | .transferTimeout => "transfer_timeout"
  | .unexpectedDispatchFailure => "unexpected_dispatch_failure"

/-- A report that a device has nothing of an execution. -/
inductive GoneStatus
  | absent
  | interrupted
deriving DecidableEq, Repr

/-- The status as a report has it. -/
def GoneStatus.status : GoneStatus → Store.ReportStatus
  | .absent => .absent
  | .interrupted => .interrupted

/-- The places where the runtime changes the store. -/
inductive RuntimeCall
  /-- `create_job_handler`. -/
  | createJob (jobId : JobId) (request : CanonicalCreateRequest)
      (targetProtocols : DeviceId → Option (ProtocolMode × List String)) (createTimeoutMs : Nat)
  /-- `upload_handler`. -/
  | startUpload (jobId : JobId)
  | markPackaging (jobId : JobId) (actualFileCount : Nat) (actualTotalBytes : Nat)
  | publishArtifact (jobId : JobId) (artifact : Store.PublishedArtifact)
  /-- `_record_upload_failure`. -/
  | uploadFailed (jobId : JobId) (packaging : Bool) (code detail : String)
  /-- `handle_admin_message`, `PUSH_FILES`. -/
  | pushFiles (jobId : JobId)
  /-- `_created_deadline_loop`. -/
  | expireCreated (jobId : JobId) (deadline : Millis)
  /-- The constructor of `PushRuntime`, after a start or a crash. -/
  | restart (acceptReconciliationTimeoutMs : Nat) (reconciliationTimeoutMs : Nat)
  | missingArtifacts (isFile : String → Bool)
  /-- `PushScheduler._run`. -/
  | claim (online : List DeviceId)
  /-- `_dispatch_assignment_inner`. -/
  | prepare (jobId : JobId) (deviceId : DeviceId) (protocolMode : ProtocolMode)
      (liveCapabilities : List String) (acceptDeadline : Option Millis)
  | transition (site : TransitionSite) (jobId : JobId) (deviceId : DeviceId)
  | reconciling (reason : ReconcilingReason) (jobId : JobId) (deviceId : DeviceId)
      (current : DeviceState) (deadline : Millis)
  /-- `_await_acceptance` and the acceptance sweep. -/
  | acceptanceExpired (jobId : JobId) (deviceId : DeviceId)
      (expectedAcceptDeadline reconciliationDeadline : Millis)
  /-- The reconciliation sweep. -/
  | reconciliationExpired (jobId : JobId) (deviceId : DeviceId)
      (processInstanceId : Option String) (deadline observedNow : Millis)
  /-- `_registration_active_snapshots` and `_handle_busy`: the device reports an execution that is
  not one of this server's. -/
  | unknownActive (deviceId : DeviceId) (active : ActiveReport) (protocolMode : ProtocolMode)
      (processInstanceId : Option String) (reason : String)
  /-- `register_device`: the new process reports explicitly that nothing is active. -/
  | registeredIdle (deviceId : DeviceId) (processInstanceId : Option String) (hasJobV1 : Bool)
  /-- `_registration_active_snapshots` and a late `PUSH_JOB_ACCEPTED`. -/
  | reportedActive (jobId : JobId) (deviceId : DeviceId) (phase detail : Option String)
  /-- `_handle_reconcile_report` with an absent or interrupted execution, on its three paths. -/
  | reportedGone (jobId : JobId) (deviceId : DeviceId) (status : GoneStatus)
      (phase detail : Option String)
  | reportedGoneFenced (jobId : JobId) (deviceId : DeviceId) (status : GoneStatus)
  | reportedGoneUnknown (jobId : JobId) (deviceId : DeviceId) (status : GoneStatus)
  /-- `_handle_result`, on its three paths. -/
  | result (jobId : JobId) (deviceId : DeviceId) (settled : Store.TerminalResult)
  | resultFenced (jobId : JobId) (deviceId : DeviceId)
  | resultUnknown (jobId : JobId) (deviceId : DeviceId)

namespace RuntimeCall

/-- The operation a call site issues. -/
def op : RuntimeCall → Op
  | .createJob jobId request targetProtocols createTimeoutMs =>
    .createJob jobId request targetProtocols createTimeoutMs
  | .startUpload jobId => .startUpload jobId
  | .markPackaging jobId actualFileCount actualTotalBytes =>
    .markPackaging jobId actualFileCount actualTotalBytes
  | .publishArtifact jobId artifact => .publishArtifact jobId artifact
  | .uploadFailed jobId packaging code detail =>
    .failPreDispatch jobId (if packaging then .failed else .interrupted) code (clip detail)
  | .pushFiles jobId => .enableDispatch jobId
  | .expireCreated jobId deadline => .expireCreated jobId (some deadline)
  | .restart acceptReconciliationTimeoutMs reconciliationTimeoutMs =>
    .recoverStartupSync acceptReconciliationTimeoutMs reconciliationTimeoutMs
  | .missingArtifacts isFile => .reconcileMissingArtifactsSync isFile
  | .claim online => .claimNext online
  | .prepare jobId deviceId protocolMode liveCapabilities acceptDeadline =>
    .prepareDispatch jobId deviceId protocolMode liveCapabilities acceptDeadline
  | .transition site jobId deviceId => site.op jobId deviceId
  | .reconciling reason jobId deviceId current deadline =>
    .markReconciling jobId deviceId [current] reason.text deadline
  | .acceptanceExpired jobId deviceId expectedAcceptDeadline reconciliationDeadline =>
    .markAcceptanceReconciling jobId deviceId expectedAcceptDeadline reconciliationDeadline
  | .reconciliationExpired jobId deviceId processInstanceId deadline observedNow =>
    .markUnconfirmed jobId deviceId processInstanceId
      "reconciliation deadline elapsed without matching evidence" (some deadline)
      (some observedNow)
  | .unknownActive deviceId active protocolMode processInstanceId reason =>
    .addOpaqueFence deviceId (opaqueIdentityForActive active) protocolMode processInstanceId reason
  | .registeredIdle deviceId processInstanceId hasJobV1 =>
    .clearFenceOnProcessReplacement deviceId processInstanceId hasJobV1
  | .reportedActive jobId deviceId phase detail =>
    .reconcileReport jobId deviceId 1 .active phase detail
  | .reportedGone jobId deviceId status phase detail =>
    .reconcileReport jobId deviceId 1 status.status phase detail
  | .reportedGoneFenced jobId deviceId _ => .clearMatchingFence jobId deviceId 1
  | .reportedGoneUnknown jobId deviceId _ => .clearMatchingOpaqueFence deviceId jobId 1
  | .result jobId deviceId settled => .settleResult jobId deviceId 1 settled
  | .resultFenced jobId deviceId => .settleLateFencedResult jobId deviceId 1
  | .resultUnknown jobId deviceId => .clearMatchingOpaqueFence deviceId jobId 1

/-- What the caller knows when it calls: an upload fails between the start of the upload and the
publication of the artifact, and the state a row is expected in was read from a row that is not
terminal. -/
def Issued (s : Store) : RuntimeCall → Prop
  | .uploadFailed jobId _ _ _ =>
    ∀ job, s.job? jobId = some job → job.state = .uploading ∨ job.state = .packaging
  | .transition (.artifactMismatch current) _ _ => current.isTerminal = false
  | .reconciling _ _ _ current _ =>
    current ∈ [DeviceState.dispatching, .downloading, .validating, .applying]
  | _ => True

end RuntimeCall

namespace Store

/-- One call of the runtime, at time `now`. -/
def runtimeStep (indexed : Bool) (s : Store) (call : Millis × RuntimeCall) : Store :=
  s.step indexed (call.1, call.2.op)

/-- The store after a list of calls. -/
abbrev runtimeExec (indexed : Bool) (s : Store) (calls : List (Millis × RuntimeCall)) : Store :=
  Run.exec (runtimeStep indexed) s calls

/-- Every call of the list is issued as the runtime issues it. -/
abbrev RuntimeRun (indexed : Bool) (s : Store) (calls : List (Millis × RuntimeCall)) : Prop :=
  Run.Along (runtimeStep indexed) (fun s call => call.2.Issued s) s calls

/-- A runtime call has one of the effects of its operation. -/
theorem runtimeStep_effect (indexed : Bool) (s : Store) (call : Millis × RuntimeCall) :
    Effect call.1 s call.2.op (s.runtimeStep indexed call) :=
  step_effect indexed s (call.1, call.2.op)

/-- The runs of the runtime are runs of the store. -/
theorem reachable_runtimeExec (indexed : Bool) (calls : List (Millis × RuntimeCall)) :
    Reachable indexed (runtimeExec indexed initial calls) :=
  ⟨calls.map fun call => (call.1, call.2.op), by
    rw [exec, Run.exec, List.foldl_map]
    rfl⟩

/-- A job with one target, uploaded and published. -/
def publishedJob : List (Millis × RuntimeCall) :=
  [(10, .createJob "job-1" (pushRequest "request-1" "quest-1") jobV1Protocols 1000),
   (20, .startUpload "job-1"),
   (30, .markPackaging "job-1" 1 10),
   (40, .publishArtifact "job-1" ⟨"artifact-1", "artifact-1.zip", "files.zip", 10, "00", 1⟩)]

end Store

end StylyMdm.PushJobs
