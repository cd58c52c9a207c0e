import StylyMdm.Runtime.Server

/-!
# `PushScheduler`

The coroutines of `push_scheduler.py`. A coroutine that can raise returns `Except Raised`, and an
`except` clause is a match on it. `self` is the number of the running task.

The loop of the scheduler claims the next assignment of every device that is online and free, and
creates a dispatch task for it. A dispatch task has no lock. It waits for a transfer slot, sends the
command to the session it finds, waits for an acceptance and for the end of the transfer, and hands
the row over to the messages of the device. At each of its awaits the device may be gone, another
socket may have the session, or the message it waits for may have been handled already; what it does
then is a transition of the store that only applies where the row is as it expects.

**Failures.** An exception that no `except` clause expects ends the task, and
`_recover_unexpected_dispatch_failure` tries to settle the row. Waiters are removed whatever
happens (`clearDispatchWaiters`).
-/

namespace StylyMdm.Runtime

open PushJobs Coop

/-! ### Exceptions -/

/-- The exceptions that leave a coroutine. -/
inductive Raised
  | store (error : StoreError)
  | send (error : SendError)
  | runtime (message : String)
deriving DecidableEq, Repr

/-- `str(error)`. The text of a `KeyError` is its key in quotes; the message of an `IntegrityError`
is the database's. -/
def storeErrorText : StoreError → String
  | .conflict message | .invalidTransition message | .pushJobError message
  | .valueError message => message
  | .notFound key | .keyError key => "'" ++ key ++ "'"
  | .integrityError => "UNIQUE constraint failed"

/-- `str(error)`. -/
def Raised.text : Raised → String
  | .store error => storeErrorText error
  | .send (.connection message) | .send (.other message) | .runtime message => message
  | .send .timeout => ""

/-- `str(exc)` of a failed send. -/
def SendError.text (error : SendError) : String := (Raised.send error).text

/-! ### Waiters -/

/-- `TransferRegistry.register` and the waiters a dispatch registers before it prepares. -/
def registerWaiters (self : Nat) (jobId : JobId) (deviceId : DeviceId) (protocol : ProtocolMode) :
    Program (Option (Nat × Option Nat)) := do
  let m ← memory
  let busy := (m.transfers (jobId, deviceId)).any fun future => !(m.transferFutures future).done
  if busy then return none
  let transferFuture := m.nextFuture
  let acceptFuture := if protocol = .jobV1 then some (m.nextFuture + 1) else none
  setMemory fun m =>
    { m with
      transfers := Function.update m.transfers (jobId, deviceId) (some transferFuture)
      acceptWaiters :=
        match acceptFuture with
        | some future => Function.update m.acceptWaiters (jobId, deviceId) (some future)
        | none => m.acceptWaiters
      dispatchWaiters :=
        ⟨self, (jobId, deviceId), transferFuture, acceptFuture⟩ ::
          m.dispatchWaiters.filter fun waiter => waiter.task ≠ self
      nextFuture := m.nextFuture + 2 }
  return some (transferFuture, acceptFuture)

/-- `_clear_dispatch_waiters`. -/
def Memory.clearDispatchWaiters (m : Memory) (waiter : DispatchWaiter) : Memory :=
  let acceptHeld :=
    waiter.acceptFuture.isSome && m.acceptWaiters waiter.key = waiter.acceptFuture
  { m with
    transferFutures := Function.update m.transferFutures waiter.transferFuture
      (m.transferFutures waiter.transferFuture).cancel
    transfers :=
      if m.transfers waiter.key = some waiter.transferFuture then
        Function.update m.transfers waiter.key none
      else m.transfers
    acceptWaiters :=
      if acceptHeld then Function.update m.acceptWaiters waiter.key none else m.acceptWaiters
    acceptFutures :=
      match waiter.acceptFuture with
      | some future =>
        if acceptHeld then
          Function.update m.acceptFutures future (m.acceptFutures future).cancel
        else m.acceptFutures
      | none => m.acceptFutures
    dispatchWaiters := m.dispatchWaiters.filter fun other =>
      !(other.task = waiter.task && other.transferFuture = waiter.transferFuture)
    wake := true }

/-- `_clear_dispatch_waiters`, as a step. -/
def clearDispatchWaiters (waiter : DispatchWaiter) : Program Unit :=
  setMemory fun m => m.clearDispatchWaiters waiter

/-! ### Store transitions -/

/-- `_fail_current`. -/
def failCurrent (jobId : JobId) (deviceId : DeviceId) (scope : FailScope) (code detail : String) :
    Program (Except Raised Unit) := do
  match ← call (.transition (.failCurrent scope code detail) jobId deviceId) with
  | .ok _ | .error (.conflict _) =>
    wake
    return .ok ()
  | .error error =>
    wake
    return .error (.store error)

/-- `_requeue_after_send_race`. -/
def requeueAfterSendRace (jobId : JobId) (deviceId : DeviceId) (detail : String) :
    Program (Except Raised Unit) := do
  match ← call (.transition (.sendRace detail) jobId deviceId) with
  | .ok _ | .error (.conflict _) =>
    wake
    return .ok ()
  | .error error => return .error (.store error)

/-! ### Frames -/

/-- `_protocol_for`. -/
def protocolFor (cfg : Config) (session : LiveSession) : Option ProtocolMode :=
  if "push_job_id_v1" ∈ session.capabilities then some .jobV1
  else if cfg.allowLegacy then some .legacy
  else none

/-- `urljoin(http_base.rstrip("/") + "/", url.lstrip("/"))` of a path. -/
def joinUrl (httpBase url : String) : String :=
  String.ofList (httpBase.toList.reverse.dropWhile (· = '/')).reverse ++ "/" ++
    String.ofList (url.toList.dropWhile (· = '/'))

/-- `_command`; `none` where the artifact is missing, which the source asserts not to happen. -/
def executeCommand (store : Store) (jobId : JobId) (protocol : ProtocolMode) (httpBase : String) :
    Option ExecuteCommand :=
  match store.snapshot jobId with
  | .error _ => none
  | .ok snapshot =>
    snapshot.artifact.map fun artifact =>
      { bundleUrl := joinUrl httpBase artifact.url
        bundleFilename := artifact.displayFilename
        destPath := snapshot.destPath
        deleteExtras := snapshot.mode = .sync
        jobV1 := protocol = .jobV1
        jobId
        revision := snapshot.revision
        artifactId := artifact.artifactId
        artifactSize := artifact.byteSize
        artifactSha256 := artifact.sha256 }

/-- `send_exact_reconcile`. -/
def sendExactReconcile (self : Nat) (deviceId : DeviceId) (session : LiveSession) (jobId : JobId)
    (artifactId : Option String) (ownerLockHeld : Bool := false) :
    Program (Option SendError) := do
  if !ownerLockHeld then acquire self deviceId
  let m ← memory
  let failure ←
    if m.dispatchSession deviceId ≠ some session then
      pure (some (.connection "device owner changed before reconcile request"))
    else sendStr session.ws deviceId (.reconcileRequest jobId 1 artifactId)
  if !ownerLockHeld then release deviceId
  return failure

/-- The `artifact_id` of a job's snapshot. -/
def snapshotArtifactId (store : Store) (jobId : JobId) : Option String :=
  match store.snapshot jobId with
  | .error _ => none
  | .ok snapshot => snapshot.artifact.map Store.ArtifactSnapshot.artifactId

/-- `send_reconcile`, of a snapshot taken from `store`. -/
def sendReconcile (self : Nat) (deviceId : DeviceId) (session : LiveSession) (store : Store)
    (jobId : JobId) : Program (Option SendError) :=
  sendExactReconcile self deviceId session jobId (snapshotArtifactId store jobId)

/-! ### Answers to a command -/

/-- `command_response`: was the answer handed to a waiting dispatch? -/
def commandResponse (jobId : JobId) (deviceId : DeviceId) (outcome : CommandOutcome)
    (payload : Payload) : Program Bool := do
  let m ← memory
  match m.acceptWaiters (jobId, deviceId) with
  | none => return false
  | some future =>
    if (m.acceptFutures future).done then return false
    setMemory fun m =>
      { m with
        acceptFutures := Function.update m.acceptFutures future (.result (outcome, payload)) }
    return true

/-- Put an assignment back because the device is busy with another one: the two places in
`_handle_busy`. `false` means a conflict. -/
def busyRequeue (jobId : JobId) (deviceId : DeviceId) : Program (Except Raised Bool) := do
  match ← call (.transition .busyRequeue jobId deviceId) with
  | .ok _ => return .ok true
  | .error (.conflict _) => return .ok false
  | .error error => return .error (.store error)

/-- The first part of `_handle_busy`: another job of this server runs on the device in legacy
mode. `true` means that the answer has been dealt with. -/
def handleBusyLegacy (jobId : JobId) (deviceId : DeviceId) (active : ActiveReport) :
    Program (Except Raised Bool) := do
  if !active.legacy then return .ok false
  match ← query fun store => store.activeAssignment deviceId with
  | none => return .ok false
  | some row =>
    if row.jobId = jobId ∨ row.protocolMode ≠ .legacy then return .ok false
    match ← busyRequeue jobId deviceId with
    | .error error => return .error error
    | .ok requeued =>
      if requeued then wake
      return .ok true

/-- The second part of `_handle_busy`: the device runs a known execution. `some keep` means that the
answer has been dealt with, and whether the transfer goes on. -/
def handleBusyKnown (self : Nat) (jobId : JobId) (deviceId : DeviceId) (active : ActiveReport)
    (ownerLockHeld : Bool) : Program (Except Raised (Option Bool)) := do
  match active.jobId with
  | none => return .ok none
  | some activeJobId =>
    if !isOne active.attempt then return .ok none
    if activeJobId = jobId then
      let time ← nowMs
      match ← call (.transition (.busySame time) jobId deviceId) with
      | .ok _ => return .ok (some true)
      | .error (.conflict _) => return .ok (some false)
      | .error error => return .error (.store error)
    else
      match ← query fun store => store.assignment activeJobId deviceId with
      | none => return .ok none
      | some (known, job) =>
        let fence ← query fun store => store.fencedAssignment deviceId
        let matchesFence := fence.any fun entry =>
          entry.1.blockingJobId = some activeJobId && entry.1.blockingAttempt = some 1
        if known.state.isActive ∨ (known.state = .unconfirmed ∧ matchesFence) then
          match ← busyRequeue jobId deviceId with
          | .error error => return .error error
          | .ok false => return .ok (some false)
          | .ok true =>
            let m ← memory
            let failure ←
              match m.dispatchSession deviceId with
              | some live =>
                if matchesFence then
                  sendExactReconcile self deviceId live activeJobId job.artifactId ownerLockHeld
                else pure none
              | none => pure none
            match failure with
            | some error => return .error (.send error)
            | none =>
              wake
              return .ok (some false)
        else return .ok none

/-- `_handle_busy`: does the transfer go on? -/
def handleBusy (self : Nat) (jobId : JobId) (deviceId : DeviceId) (payload : Payload)
    (ownerLockHeld : Bool) : Program (Except Raised Bool) := do
  let active := payload.activeJob.getD {}
  match ← handleBusyLegacy jobId deviceId active with
  | .error error => return .error error
  | .ok true => return .ok false
  | .ok false =>
    match ← handleBusyKnown self jobId deviceId active ownerLockHeld with
    | .error error => return .error error
    | .ok (some keep) => return .ok keep
    | .ok none =>
      let m ← memory
      let protocol := if active.legacy then ProtocolMode.legacy else .jobV1
      match ← call (.unknownActive deviceId active protocol
          ((m.dispatchSession deviceId).bind LiveSession.processInstanceId)
          "client reported an active Push/Sync execution unknown to this server") with
      | .error error => return .error (.store error)
      | .ok _ =>
        match ← failCurrent jobId deviceId .unanswered "client_state_conflict"
          "Device reported an active Push/Sync execution that is not canonical on this server" with
        | .error error => return .error error
        | .ok _ => return .ok false

/-- The reason and the detail of a rejection. -/
def rejection (payload : Payload) : String × String :=
  let reason := if Store.truthy payload.reason then payload.reason.getD "" else "command_rejected"
  (reason, if Store.truthy payload.detail then payload.detail.getD "" else reason)

/-- `handle_late_command_response`. -/
def handleLateCommandResponse (self : Nat) (jobId : JobId) (deviceId : DeviceId)
    (outcome : CommandOutcome) (payload : Payload) : Program (Except Raised Unit) := do
  match ← query fun store => store.assignment jobId deviceId with
  | none => return .ok ()
  | some (row, _) =>
    if row.state ≠ .reconciling then return .ok ()
    match outcome with
    | .busy =>
      -- the snapshot only tells `_handle_busy` the job, whose row exists
      let _ ← query fun store => store.snapshot jobId
      match ← handleBusy self jobId deviceId payload true with
      | .error error => return .error error
      | .ok keep =>
        if !keep then releaseExact jobId deviceId "late_device_busy"
        return .ok ()
    | _ =>
      releaseExact jobId deviceId "late_command_rejected"
      failCurrent jobId deviceId .reconciling (rejection payload).1 (rejection payload).2

/-- `_await_acceptance`: does the transfer go on? -/
def awaitAcceptance (cfg : Config) (self : Nat) (deviceId : DeviceId) (session : LiveSession)
    (jobId : JobId) (acceptFuture : Nat) (acceptDeadline : Millis) :
    Program (Except Raised Bool) := do
  match ← waitAccept acceptFuture with
  | none =>
    -- `wait_for` has cancelled the future
    setMemory fun m =>
      { m with
        acceptFutures := Function.update m.acceptFutures acceptFuture
          (m.acceptFutures acceptFuture).cancel }
    let time ← nowMs
    match ← call (.acceptanceExpired jobId deviceId acceptDeadline
        (time + cfg.acceptReconciliationTimeoutMs)) with
    | .error (.conflict _) => return .ok false
    | .error error => return .error (.store error)
    | .ok (_, store) =>
      match ← sendReconcile self deviceId session store jobId with
      | none => return .ok true
      | some error => if error.isExpected then return .ok false else return .error (.send error)
  | some (.accepted, _) =>
    let time ← nowMs
    match ← call (.transition (.accepted time) jobId deviceId) with
    | .ok _ | .error (.conflict _) => return .ok true
    | .error error => return .error (.store error)
  | some (.busy, payload) =>
    match ← handleBusy self jobId deviceId payload false with
    | .error error => return .error error
    | .ok true => return .ok true
    | .ok false =>
      releaseExact jobId deviceId "device_busy"
      return .ok false
  | some (.rejected, payload) =>
    releaseExact jobId deviceId "command_rejected"
    match ← failCurrent jobId deviceId .unanswered (rejection payload).1 (rejection payload).2 with
    | .error error => return .error error
    | .ok _ => return .ok false

/-! ### The dispatch task -/

/-- The end of `_dispatch_assignment_inner`: wait for the transfer, and move the row to
reconciliation when it takes too long. -/
def awaitTransfer (cfg : Config) (self : Nat) (jobId : JobId) (deviceId : DeviceId)
    (transferFuture : Nat) : Program (Except Raised Unit) := do
  match ← waitTransfer transferFuture with
  | some _ => return .ok ()
  | none =>
    setMemory fun m =>
      { m with
        transferFutures := Function.update m.transferFutures transferFuture
          (m.transferFutures transferFuture).cancel }
    match ← query fun store => store.activeAssignment deviceId with
    | none => return .ok ()
    | some row =>
      if row.jobId ≠ jobId ∨
          row.state ∉ [DeviceState.dispatching, .downloading, .validating, .applying] then
        return .ok ()
      let time ← nowMs
      match ← call (.reconciling .transferTimeout jobId deviceId row.state
          (time + cfg.reconciliationTimeoutMs)) with
      | .error (.conflict _) => return .ok ()
      | .error error => return .error (.store error)
      | .ok (_, store) =>
        let m ← memory
        match m.dispatchSession deviceId with
        | none => return .ok ()
        | some live =>
          match ← sendReconcile self deviceId live store jobId with
          | none => return .ok ()
          | some error => if error.isExpected then return .ok () else return .error (.send error)

/-- The part of `_dispatch_assignment_inner` after the command was sent. -/
def afterSend (cfg : Config) (self : Nat) (jobId : JobId) (deviceId : DeviceId)
    (session : LiveSession) (waiter : DispatchWaiter) (acceptDeadline : Millis) :
    Program (Except Raised Unit) := do
  let goesOn ←
    match waiter.acceptFuture with
    | none => do
      let time ← nowMs
      match ← call (.transition (.legacySent time) jobId deviceId) with
      | .ok _ => pure (.ok true)
      | .error (.conflict _) => pure (.ok false)
      | .error error => pure (.error (.store error))
    | some future => awaitAcceptance cfg self deviceId session jobId future acceptDeadline
  match goesOn with
  | .error error =>
    -- the legacy branch leaves the waiters to the recovery, which clears them at once
    clearDispatchWaiters waiter
    return .error error
  | .ok false =>
    clearDispatchWaiters waiter
    return .ok ()
  | .ok true =>
    let ended ← awaitTransfer cfg self jobId deviceId waiter.transferFuture
    clearDispatchWaiters waiter
    return ended

/-- The part of `_dispatch_assignment_inner` that holds the device lock: the final owner check and
the send. -/
def sendCommand (cfg : Config) (self : Nat) (jobId : JobId) (deviceId : DeviceId)
    (session : LiveSession) (waiter : DispatchWaiter) (acceptDeadline : Millis)
    (command : ExecuteCommand) : Program (Except Raised Unit) := do
  acquire self deviceId
  let m ← memory
  if m.dispatchSession deviceId ≠ some session then
    release deviceId
    releaseExact jobId deviceId "connection_replaced"
    clearDispatchWaiters waiter
    requeueAfterSendRace jobId deviceId "device WebSocket owner changed before command send"
  else
    match ← sendStr session.ws deviceId (.executePushFiles command) with
    | some error =>
      release deviceId
      releaseExact jobId deviceId "command_send_failed"
      clearDispatchWaiters waiter
      failCurrent jobId deviceId .dispatching "command_send_failed"
        ("Could not send EXECUTE_PUSH_FILES: " ++ error.text)
    | none =>
      release deviceId
      afterSend cfg self jobId deviceId session waiter acceptDeadline

/-- `_dispatch_assignment_inner`. -/
def dispatchAssignmentInner (cfg : Config) (self : Nat) (jobId : JobId) (deviceId : DeviceId) :
    Program (Except Raised Unit) := do
  waitSlot
  let m ← memory
  match m.dispatchSession deviceId with
  | none =>
    failCurrent jobId deviceId .waiting "device_offline_before_dispatch"
      "Device went offline before its queue turn"
  | some session =>
    match protocolFor cfg session with
    | none =>
      failCurrent jobId deviceId .waiting "capability_changed_before_dispatch"
        "Live session no longer supports push_job_id_v1 and legacy fallback is disabled"
    | some protocol =>
      match ← registerWaiters self jobId deviceId protocol with
      | none => return .error (.runtime ("transfer waiter already registered: TransferKey(" ++
          "kind='push', device_id='" ++ deviceId ++ "', job_id='" ++ jobId ++ "', attempt=1)"))
      | some (transferFuture, acceptFuture) =>
        let waiter : DispatchWaiter := ⟨self, (jobId, deviceId), transferFuture, acceptFuture⟩
        let time ← nowMs
        let acceptDeadline := time + cfg.acceptTimeoutMs
        match ← call (.prepare jobId deviceId protocol session.capabilities
            (if protocol = .jobV1 then some acceptDeadline else none)) with
        | .error error =>
          clearDispatchWaiters waiter
          return .error (.store error)
        | .ok (_, store) =>
          match executeCommand store jobId protocol session.httpBase with
          | none => return .error (.runtime "")
          | some command =>
            sendCommand cfg self jobId deviceId session waiter acceptDeadline command

/-! ### Recovery of a failed dispatch -/

/-- The end of `_recover_unexpected_dispatch_failure`: ask the device, if it is connected. `false`
means that the loop goes on. -/
def recoverReconcile (self : Nat) (jobId : JobId) (deviceId : DeviceId) (row : DeviceRow)
    (store : Store) : Program Bool := do
  let m ← memory
  match m.dispatchSession deviceId with
  | none => return true
  | some session =>
    if row.protocolMode ≠ .jobV1 then return true
    match ← sendReconcile self deviceId session store jobId with
    | none => return true
    | some error => return error.isExpected

/-- One round of the loop of `_recover_unexpected_dispatch_failure`. `false` means that the loop
goes on, after a conflict or another exception. -/
def recoverRound (cfg : Config) (self : Nat) (jobId : JobId) (deviceId : DeviceId)
    (error : String) : Program Bool := do
  match ← query fun store => store.assignment jobId deviceId with
  | none => return true
  | some (row, _) =>
    match row.state with
    | .waitingTransfer =>
      match ← call (.transition (.dispatchRecovery error) jobId deviceId) with
      | .ok _ => return true
      | .error _ => return false
    | .dispatching | .downloading | .validating | .applying =>
      let time ← nowMs
      let timeout :=
        if row.state = .dispatching ∧ row.acceptedAt = none then cfg.acceptReconciliationTimeoutMs
        else cfg.reconciliationTimeoutMs
      match ← call (.reconciling .unexpectedDispatchFailure jobId deviceId row.state
          (time + timeout)) with
      | .ok (_, store) => recoverReconcile self jobId deviceId row store
      | .error _ => return false
    | .reconciling =>
      let store ← query id
      recoverReconcile self jobId deviceId row store
    | _ => return true

/-- `_recover_unexpected_dispatch_failure`, with the next round as a task of its own kind. The end
of a dispatch wakes the scheduler: `_dispatch_done`. -/
def recoverDispatch (cfg : Config) (self : Nat) (jobId : JobId) (deviceId : DeviceId)
    (error : String) : Program (Option Task) := do
  if ← recoverRound cfg self jobId deviceId error then
    wake
    return none
  sleep
  return some (.recover jobId deviceId error)

/-- `_dispatch_assignment`. -/
def dispatchAssignment (cfg : Config) (self : Nat) (jobId : JobId) (deviceId : DeviceId) :
    Program (Option Task) := do
  match ← dispatchAssignmentInner cfg self jobId deviceId with
  | .ok _ =>
    wake
    return none
  | .error error =>
    let m ← memory
    match m.dispatchWaiters.find? fun waiter => waiter.task = self with
    | some waiter => clearDispatchWaiters waiter
    | none => pure ()
    recoverDispatch cfg self jobId deviceId error.text

/-! ### The loop of the scheduler -/

/-- The devices with a live session among those the store knows: `self.sessions().keys()`. -/
def onlineDevices (s : Server) : List DeviceId :=
  ((s.store.devices.rows.map DeviceRow.deviceId).dedup).filter fun deviceId =>
    (s.memory.dispatchSession deviceId).isSome

/-- `_run`, up to the inner loop. -/
def schedulerRun : Program (Option Task) := do
  waitWake
  setMemory fun m => { m with wake := false }
  return some .claims

/-- One round of the inner loop of `_run`. -/
def schedulerClaims : Program (Option Task) := do
  let s ← Prog.get
  match ← call (.claim (onlineDevices s)) with
  | .error _ =>
    sleep
    return some .claims
  | .ok (.claimed (some row), _) =>
    Prog.create (.dispatch row.jobId row.deviceId)
    return some .claims
  | .ok _ => return some .run

end StylyMdm.Runtime
