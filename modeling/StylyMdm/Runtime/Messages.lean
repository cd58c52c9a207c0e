import StylyMdm.Runtime.Evidence
import StylyMdm.Runtime.Runtime

/-!
# The messages of a device

`handle_device_message` of `push_runtime.py` and the handlers below it, as coroutines. All of them
run under the device lock of the session that delivers the message.

A frame that names a job is compared with the row of the assignment before it changes anything. What
does not fit is ignored, but every result is answered, also one that is refused, so that the client
need not repeat it. Progress frames, results, reports and the answers to a command are the four
groups; the two messages of the legacy protocol are mapped to the active row of the device.

The acknowledgement of a result is sent after the store has committed it. When the send fails, the
client repeats the result, which `Runtime.Redelivery` is about.
-/

namespace StylyMdm.Runtime.PushRuntime

open PushJobs Coop

/-! ### Progress -/

/-- `_handle_transfer_complete`. -/
def handleTransferComplete (deviceId : DeviceId) (payload : Payload) :
    Program (Except Raised Unit) := do
  match payload.jobId with
  | none => return .ok ()
  | some jobId =>
    if !isOne payload.attempt then return .ok ()
    match ← query fun store => store.snapshot jobId with
    | .error (.notFound _) => return .ok ()
    | .error error => return .error (.store error)
    | .ok snapshot =>
      match snapshot.devices.find? (fun device => device.deviceId = deviceId),
          snapshot.artifact with
      | some device, some artifact =>
        if payload.artifactId ≠ some artifact.artifactId ∨ payload.receivedSize = none ∨
            payload.receivedSize ≠ artifact.byteSize.map Int.ofNat ∨ device.attempt ≠ 1 then
          return .ok ()
        let time ← nowMs
        match ← call (.transition (.transferComplete time) jobId deviceId) with
        | .ok _ =>
          releaseExact jobId deviceId "transfer_complete"
          return .ok ()
        | .error (.conflict _) => return .ok ()
        | .error error => return .error (.store error)
      | _, _ => return .ok ()

/-- `_handle_validation_complete`. -/
def handleValidationComplete (deviceId : DeviceId) (payload : Payload) :
    Program (Except Raised Unit) := do
  match payload.jobId with
  | none => return .ok ()
  | some jobId =>
    if !isOne payload.attempt then return .ok ()
    match ← query fun store => store.snapshot jobId with
    | .error (.notFound _) => return .ok ()
    | .error error => return .error (.store error)
    | .ok snapshot =>
      let assignment ← query fun store => store.assignment jobId deviceId
      match snapshot.artifact, snapshot.devices.find? (fun device => device.deviceId = deviceId),
          assignment with
      | some artifact, some device, some (row, _) =>
        if payload.artifactId ≠ some artifact.artifactId ∨ device.state ≠ .validating ∨
            row.validationCompletedAt ≠ none then
          return .ok ()
        let time ← nowMs
        match ← call (.transition (.validationComplete time) jobId deviceId) with
        | .ok _ | .error (.conflict _) => return .ok ()
        | .error error => return .error (.store error)
      | _, _, _ => return .ok ()

/-- `_handle_phase`. -/
def handlePhase (deviceId : DeviceId) (payload : Payload) : Program (Except Raised Unit) := do
  if payload.phase ≠ some "applying" ∨ !isOne payload.attempt then return .ok ()
  match payload.jobId with
  | none => return .ok ()
  | some jobId =>
    let time ← nowMs
    match ← call (.transition (.applying time) jobId deviceId) with
    | .ok _ | .error (.conflict _) | .error (.notFound _) => return .ok ()
    | .error error => return .error (.store error)

/-! ### Results -/

/-- The end of `_handle_result`: the acknowledgement, and the scheduler is woken if the result was
accepted. -/
def acknowledgeResult (deviceId : DeviceId) (session : LiveSession) (jobId : JobId)
    (accepted : Bool) (revision : Option Nat) (reason : Option String) :
    Program (Except Raised Unit) := do
  match ← sendResultAck deviceId session jobId accepted revision reason with
  | .error error => return .error error
  | .ok _ =>
    if accepted then wake
    return .ok ()

/-- `_handle_result` on an unconfirmed row. -/
def handleLateResult (deviceId : DeviceId) (session : LiveSession) (jobId : JobId) :
    Program (Except Raised Unit) := do
  match ← issue (.resultFenced jobId deviceId) fun s =>
      s.store.settleLateFencedResult s.clock jobId deviceId 1 with
  | .error error => return .error (.store error)
  | .ok (_, accepted, snapshots) =>
    if accepted then releaseExact jobId deviceId "terminal_result"
    acknowledgeResult deviceId session jobId accepted (revisionOf jobId snapshots)
      (if accepted then none else some "stale_result")

/-- `_handle_result` on any other row. A row that became unconfirmed before the transaction is
looked at once more. -/
def handleSettledResult (deviceId : DeviceId) (session : LiveSession) (jobId : JobId)
    (payload : Payload) : Program (Except Raised Unit) := do
  match ← issue (.result jobId deviceId (terminalResult payload)) fun s =>
      s.store.settleResult s.clock jobId deviceId 1 (terminalResult payload) with
  | .error error => return .error (.store error)
  | .ok (_, accepted, reason, snapshot) =>
    let current := snapshot.devices.find? fun device => device.deviceId = deviceId
    if !accepted ∧ reason ∈ [some "unexpected_result_state", some "conflicting_terminal_result"] ∧
        current.any (fun device => device.state = .unconfirmed) then
      match ← issue (.resultFenced jobId deviceId) fun s =>
          s.store.settleLateFencedResult s.clock jobId deviceId 1 with
      | .error error => return .error (.store error)
      | .ok (_, accepted, late) =>
        let shown :=
          if accepted then (late.find? fun item => item.jobId = jobId).getD snapshot else snapshot
        if accepted then releaseExact jobId deviceId "terminal_result"
        acknowledgeResult deviceId session jobId accepted (some shown.revision)
          (if accepted then none else reason)
    else
      if accepted then releaseExact jobId deviceId "terminal_result"
      acknowledgeResult deviceId session jobId accepted (some snapshot.revision) reason

/-- `_handle_result`. -/
def handleResult (deviceId : DeviceId) (session : LiveSession) (payload : Payload) :
    Program (Except Raised Unit) := do
  match payload.jobId with
  | none => return .ok ()
  | some jobId =>
    if !isOne payload.attempt then
      sendResultAck deviceId session jobId false none (some "stale_result")
    else if payload.status ∉ [some "success", some "fail"] ∨
        payload.status = some "success" ∧ !countsGiven payload then
      sendResultAck deviceId session jobId false none (some "malformed_terminal_result")
    else
      match ← issue (.resultUnknown jobId deviceId) fun s =>
          s.store.clearMatchingOpaqueFence s.clock deviceId jobId 1 with
      | .error error => return .error (.store error)
      | .ok (_, true, snapshots) =>
        acknowledgeResult deviceId session jobId true (revisionOf jobId snapshots) none
      | .ok (_, false, _) =>
        match ← query fun store => store.assignment jobId deviceId with
        | none => sendResultAck deviceId session jobId false none (some "unknown_job")
        | some (row, _) =>
          if row.attempt ≠ 1 then
            sendResultAck deviceId session jobId false none (some "stale_result")
          else if row.state = .unconfirmed then handleLateResult deviceId session jobId
          else handleSettledResult deviceId session jobId payload

/-! ### Reports -/

/-- `_handle_reconcile_report` on a reconciling row. -/
def handleReconciling (deviceId : DeviceId) (jobId : JobId) (status : Store.ReportStatus)
    (payload : Payload) : Program (Except Raised Unit) := do
  let c :=
    match status with
    | .active => RuntimeCall.reportedActive jobId deviceId payload.phase payload.detail
    | .absent => .reportedGone jobId deviceId .absent payload.phase payload.detail
    | .interrupted | .other _ =>
      .reportedGone jobId deviceId .interrupted payload.phase payload.detail
  match ← call c with
  | .error (.conflict _) | .error (.notFound _) => return .ok ()
  | .error error => return .error (.store error)
  | .ok (reply, _) =>
    match reply with
    | .outcome .requeued => releaseExact jobId deviceId "requeued"
    | .outcome .interrupted => releaseExact jobId deviceId "interrupted"
    | .outcome .active =>
      if payload.phase ∈ [some "validating", some "applying"] then
        releaseExact jobId deviceId "active"
    | _ => pure ()
    wake
    return .ok ()

/-- `_handle_reconcile_report`. -/
def handleReconcileReport (deviceId : DeviceId) (payload : Payload) :
    Program (Except Raised Unit) := do
  match payload.jobId, reportStatus payload with
  | some jobId, some status =>
    if !isOne payload.attempt then return .ok ()
    let gone := if status = .absent then GoneStatus.absent else .interrupted
    match ← query fun store => store.assignment jobId deviceId with
    | none =>
      if status = .active then return .ok ()
      match ← call (.reportedGoneUnknown jobId deviceId gone) with
      | .error error => return .error (.store error)
      | .ok (reply, _) =>
        if reply = .flag true then wake
        return .ok ()
    | some (row, _) =>
      if row.state = .unconfirmed ∧ status ≠ .active then
        match ← issue (.reportedGoneFenced jobId deviceId gone) fun s =>
            s.store.clearMatchingFence s.clock jobId deviceId 1 with
        | .error error => return .error (.store error)
        | .ok (_, snapshots) =>
          if !snapshots.isEmpty then wake
          return .ok ()
      else if row.state ≠ .reconciling then return .ok ()
      else handleReconciling deviceId jobId status payload
  | _, _ => return .ok ()

/-! ### Answers to a command -/

/-- `PUSH_JOB_ACCEPTED`. -/
def handleAccepted (deviceId : DeviceId) (jobId : JobId) (payload : Payload) :
    Program (Except Raised Unit) := do
  if !isOne payload.attempt then return .ok ()
  if ← commandResponse jobId deviceId .accepted payload then return .ok ()
  match ← query fun store => store.assignment jobId deviceId with
  | none => return .ok ()
  | some (row, _) =>
    if row.state ≠ .reconciling then return .ok ()
    match ← call
      (.reportedActive jobId deviceId (some (payload.phase.getD "downloading")) none) with
    | .error (.conflict _) | .error (.notFound _) => return .ok ()
    | .error error => return .error (.store error)
    | .ok (reply, _) =>
      if reply = .outcome .active ∧ payload.phase ∈ [some "validating", some "applying"] then
        releaseExact jobId deviceId "late_accept_after_transfer"
      return .ok ()

/-- `PUSH_JOB_REJECTED`. -/
def handleRejected (self : Nat) (deviceId : DeviceId) (jobId : JobId) (payload : Payload) :
    Program (Except Raised Unit) := do
  if !isOne payload.attempt then return .ok ()
  let outcome := if payload.reason = some "device_busy" then CommandOutcome.busy else .rejected
  if ← commandResponse jobId deviceId outcome payload then return .ok ()
  handleLateCommandResponse self jobId deviceId outcome payload

/-- `_handle_owned_job_v1_message`. -/
def handleOwnedJobV1Message (self : Nat) (session : LiveSession) (deviceId : DeviceId)
    (payload : Payload) : Program (Except Raised Unit) :=
  match payload.type, payload.jobId with
  | .pushJobAccepted, some jobId => handleAccepted deviceId jobId payload
  | .pushJobRejected, some jobId => handleRejected self deviceId jobId payload
  | .pushTransferComplete, some _ => handleTransferComplete deviceId payload
  | .downloadComplete, some _ => handleValidationComplete deviceId payload
  | .pushPhase, some _ => handlePhase deviceId payload
  | .pushFilesResult, some _ => handleResult deviceId session payload
  | .pushReconcileReport, some _ => handleReconcileReport deviceId payload
  | _, _ => return .ok ()

/-! ### Legacy messages -/

/-- `_handle_owned_legacy_message`. -/
def handleOwnedLegacyMessage (session : LiveSession) (deviceId : DeviceId) (payload : Payload) :
    Program (Except Raised Unit) := do
  match ← query fun store => store.activeAssignment deviceId with
  | none => return .ok ()
  | some row =>
    if row.protocolMode ≠ .legacy then return .ok ()
    if payload.type = .downloadComplete then
      releaseExact row.jobId deviceId "legacy_download_complete"
      let time ← nowMs
      match ← call (.transition (.legacyDownloadComplete time) row.jobId deviceId) with
      | .ok _ | .error (.conflict _) => return .ok ()
      | .error error => return .error (.store error)
    else
      handleResult deviceId session { payload with jobId := some row.jobId, attempt := .one }

/-- Is it a frame of a job-v1 client? -/
def isJobV1 (payload : Payload) : Bool :=
  payload.type ∈ [MessageType.pushJobAccepted, .pushJobRejected, .pushTransferComplete, .pushPhase,
      .pushReconcileReport] ||
    (payload.type ∈ [MessageType.downloadComplete, .pushFilesResult] && payload.jobId.isSome)

/-- Is it a frame of a legacy push? -/
def isLegacyPush (payload : Payload) : Bool :=
  (payload.type = .downloadComplete && payload.task = some "push") ||
    (payload.type = .pushFilesResult && payload.jobId.isNone)

/-- `handle_device_message`, on the WebSocket `self`. -/
def handleDeviceMessage (self : Nat) (deviceId : DeviceId) (payload : Payload) :
    Program (Except Raised Unit) := do
  if !(isJobV1 payload || isLegacyPush payload) then return .ok ()
  acquire self deviceId
  let m ← memory
  let superseded := (m.registrationCandidates deviceId).any fun candidate => candidate ≠ self
  let result ←
    match m.sessions deviceId with
    | none => pure (.ok ())
    | some session =>
      if superseded || session.ws ≠ self then pure (.ok ())
      else if isJobV1 payload then handleOwnedJobV1Message self session deviceId payload
      else handleOwnedLegacyMessage session deviceId payload
  release deviceId
  return result

end StylyMdm.Runtime.PushRuntime
