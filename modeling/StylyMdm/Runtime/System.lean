import StylyMdm.Runtime.Messages

/-!
# The running server

`register_device` and the sweeps of `push_runtime.py`, the WebSocket handler of a device as far as
it concerns the runtime, and the tasks and events of the process: `system` is a server with any
number of devices, administrators and restarts.

**Registration.** A task that registers tests under the lock that its socket is still the candidate,
takes the session of a predecessor away, looks after the row that the predecessor may have left,
compares the device's report with the store, and opens the new session. It tests again at the end,
and gives up when a newer socket has claimed the device in the meantime (`giveUp`).

**Sweeps.** The housekeeping looks for acceptances and reconciliations whose deadlines have passed.
It takes no device lock.

**Events** are the calls of HTTP handlers and administrators, which reach the store without a lock,
and the end of the process. A restart keeps the store and nothing else (`restarted`); the start-up
recovery of the store is part of it.
-/

namespace StylyMdm.Runtime

open PushJobs Coop

/-! ### Registration -/

/-- The capability of a job-v1 client. -/
def capPushJobIdV1 : String := "push_job_id_v1"

/-- `add_opaque_fence` for what a `REGISTER` reports. -/
def fenceReported (deviceId : DeviceId) (session : LiveSession) (active : ActiveReport)
    (reason : String) : Program (Except Raised Unit) := do
  match ← call (.unknownActive deviceId active .jobV1 session.processInstanceId reason) with
  | .ok _ => return .ok ()
  | .error error => return .error (.store error)

/-- `_registration_active_snapshots`. -/
def registrationActiveSnapshots (deviceId : DeviceId) (session : LiveSession)
    (active : ActiveReport) : Program (Except Raised Unit) := do
  match active.jobId, isOne active.attempt, active.phase with
  | some jobId, true, some phase =>
    match ← query fun store => store.assignment jobId deviceId with
    | none =>
      fenceReported deviceId session active
        "REGISTER reported an active Push/Sync job unknown to this server"
    | some (row, job) =>
      if active.artifactId.join = none ∨ active.artifactId.join ≠ job.artifactId then
        match ← fenceReported deviceId session active
          "REGISTER active state conflicted with the canonical artifact" with
        | .error error => return .error error
        | .ok _ =>
          if row.state.isTerminal then return .ok ()
          match ← call (.transition (.artifactMismatch row.state) jobId deviceId) with
          | .ok _ | .error (.conflict _) => return .ok ()
          | .error error => return .error (.store error)
      else if row.state ≠ .reconciling then return .ok ()
      else
        match ← call (.reportedActive jobId deviceId (some phase) none) with
        | .ok _ | .error (.conflict _) => return .ok ()
        | .error error => return .error (.store error)
  | _, _, _ =>
    fenceReported deviceId session active "REGISTER reported malformed active Push/Sync state"

/-- What `register_device` makes of the `push_runtime` entry: does the active row need a
reconciliation request? -/
def registrationReport (deviceId : DeviceId) (session : LiveSession) (report : RuntimeReport) :
    Program (Except Raised Bool) := do
  match report with
  | .active active =>
    match ← registrationActiveSnapshots deviceId session active with
    | .error error => return .error error
    | .ok _ => return .ok false
  | _ =>
    let cleared ←
      if report = .idle then do
        match ← call (.registeredIdle deviceId session.processInstanceId
            (capPushJobIdV1 ∈ session.capabilities)) with
        | .ok _ => pure none
        | .error error => pure (some error)
      else pure none
    match cleared with
    | some error => return .error (.store error)
    | none =>
      let active ← query fun store => store.activeAssignment deviceId
      return .ok (active.any fun row => row.state = .reconciling)

/-- The first part of `register_device`: the session of an older WebSocket is removed. -/
def replacePrevious (cfg : Config) (self : Nat) (deviceId : DeviceId) :
    Program (Except Raised Unit) := do
  let m ← memory
  match m.sessions deviceId with
  | none => return .ok ()
  | some previous =>
    if previous.ws = self then return .ok ()
    popSession deviceId
    connectionLost cfg deviceId "connection_replaced"

/-- `register_device` ends: the history is told if the device is left without a session. -/
def giveUp (deviceId : DeviceId) : Program Unit :=
  .modify fun s =>
    if s.memory.sessions deviceId = none then s.record (.dropped s.store deviceId) else s

/-- `register_device` sets the session and sends `REGISTERED`. -/
def openSession (self : Nat) (deviceId : DeviceId) (session : LiveSession) :
    Program (Option SendError) := do
  setMemory fun m => { m with sessions := Function.update m.sessions deviceId (some session) }
  match ← sendStr self deviceId (.registered session.sessionId) with
  | none => return none
  | some error =>
    let m ← memory
    if m.sessions deviceId = some session then popSession deviceId
    giveUp deviceId
    return some error

/-- Is the WebSocket still the newest one of the device? -/
def Memory.isCandidate (m : Memory) (deviceId : DeviceId) (ws : Nat) : Bool :=
  m.registrationCandidates deviceId = some ws && m.ownsDevice deviceId ws

/-- The part of `register_device` that holds the device lock: `none` where it returns before the
device is registered, otherwise whether a reconciliation request is needed. -/
def registerLocked (cfg : Config) (self : Nat) (deviceId : DeviceId) (session : LiveSession)
    (report : RuntimeReport) : Program (Except Raised (Option Bool)) := do
  let m ← memory
  if !m.isCandidate deviceId self then return .ok none
  match ← replacePrevious cfg self deviceId with
  | .error error =>
    giveUp deviceId
    return .error error
  | .ok _ =>
    match ← registrationReport deviceId session report with
    | .error error =>
      giveUp deviceId
      return .error error
    | .ok needsReconcile =>
      let m ← memory
      if !m.isCandidate deviceId self then
        giveUp deviceId
        return .ok none
      match ← openSession self deviceId session with
      | some error => return .error (.send error)
      | none =>
        let m ← memory
        if !m.ownsDevice deviceId self then return .ok none
        setMemory fun m =>
          let m := m.setReady deviceId true
          if m.registrationCandidates deviceId = some self then
            { m with
              registrationCandidates :=
                Function.update m.registrationCandidates deviceId none }
          else m
        return .ok (some needsReconcile)

/-- `register_device`. A client without a process UUID does not get the guarantees of job-v1. -/
def registerDevice (cfg : Config) (self : Nat) (registration : Registration) :
    Program (Except Raised Unit) := do
  let deviceId := registration.deviceId
  let m ← memory
  let session : LiveSession :=
    { sessionId := m.nextSession
      ws := self
      capabilities :=
        if registration.processInstanceId = none then
          registration.capabilities.filter (· ≠ capPushJobIdV1)
        else registration.capabilities
      processInstanceId := registration.processInstanceId
      httpBase := registration.httpBase }
  setMemory fun m => { m with nextSession := m.nextSession + 1 }
  acquire self deviceId
  let registered ← registerLocked cfg self deviceId session registration.pushRuntime
  release deviceId
  match registered with
  | .error error => return .error error
  | .ok none => return .ok ()
  | .ok (some needsReconcile) =>
    let m ← memory
    let asked ←
      if needsReconcile && m.commandAllowed deviceId then requestReconcile self deviceId
      else pure (.ok ())
    match asked with
    | .error error => return .error error
    | .ok _ =>
      wake
      return .ok ()

/-- `acknowledge_registration`. -/
def acknowledgeRegistration (self : Nat) (deviceId : DeviceId) : Program (Option SendError) := do
  let m ← memory
  match m.sessions deviceId with
  | none => return none
  | some session =>
    let ready := (m.devices deviceId).any fun entry => entry.registrationReady
    if session.ws ≠ self || !m.ownsDevice deviceId self || !ready then return none
    sendStr self deviceId (.registered session.sessionId)

/-! ### The WebSocket of a device -/

/-- The end of `device_ws_handler`: the entry of the device is deleted if it is still this one. -/
def leave (self : Nat) (deviceId : DeviceId) : Program Unit :=
  setMemory fun m =>
    if m.ownsDevice deviceId self then
      { m with devices := Function.update m.devices deviceId none }
    else m

/-- `device_ws_handler` from the first `REGISTER` of a device on: the device is claimed, and
`register_device` runs. When an exception ends the handler, nobody closes the WebSocket. -/
def socket (cfg : Config) (self : Nat) (registration : Registration) : Program (Option Task) := do
  let deviceId := registration.deviceId
  setMemory fun m =>
    { m with
      devices := Function.update m.devices deviceId (some ⟨self, registration.canonical, false⟩)
      registrationCandidates :=
        Function.update m.registrationCandidates deviceId (some self) }
  match ← registerDevice cfg self registration with
  | .ok _ => return some (.serve deviceId)
  | .error _ =>
    leave self deviceId
    return none

/-- One round of the loop of `device_ws_handler`. A close frame is answered by `close`, which calls
`disconnect_device`, before the loop ends; after a lost connection `close` is called last. -/
def serve (cfg : Config) (self : Nat) (deviceId : DeviceId) : Program (Option Task) := do
  match ← receive with
  | .message payload =>
    match ← PushRuntime.handleDeviceMessage self deviceId payload with
    | .ok _ => return some (.serve deviceId)
    | .error _ =>
      leave self deviceId
      return none
  | .register =>
    match ← acknowledgeRegistration self deviceId with
    | none => return some (.serve deviceId)
    | some _ =>
      leave self deviceId
      return none
  | .close =>
    let _ ← disconnectDevice cfg self deviceId
    leave self deviceId
    return none
  | .lost =>
    leave self deviceId
    let _ ← disconnectDevice cfg self deviceId
    return none

/-! ### The sweeps -/

/-- The loop over the acceptances of `_reconciliation_housekeeping`. -/
def sweepAcceptances (cfg : Config) (self : Nat) : List Store.Expired → Program Unit
  | [] => return ()
  | row :: rows => do
    let m ← memory
    if !m.hasLiveAcceptanceWaiter row.jobId row.deviceId then
      let time ← nowMs
      match ← call (.acceptanceExpired row.jobId row.deviceId row.deadline
          (time + cfg.acceptReconciliationTimeoutMs)) with
      | .error _ => wake
      | .ok _ =>
        let _ ← requestReconcile self row.deviceId
        wake
    sweepAcceptances cfg self rows

/-- The loop over the reconciliations of `_reconciliation_housekeeping`. -/
def sweepReconciliations : List Store.Expired → Program Unit
  | [] => return ()
  | row :: rows => do
    let m ← memory
    let time ← nowMs
    match ← call (.reconciliationExpired row.jobId row.deviceId
        ((m.sessions row.deviceId).bind LiveSession.processInstanceId) row.deadline time) with
    | .error _ => pure ()
    | .ok _ =>
      releaseExact row.jobId row.deviceId "reconciliation_timeout"
      wake
    sweepReconciliations rows

/-- One round of `_reconciliation_housekeeping`. -/
def housekeeping (cfg : Config) (self : Nat) : Program (Option Task) := do
  sleep
  let timestamp ← nowMs
  let acceptances ← query fun store => store.expiredAcceptances timestamp
  let reconciliations ← query fun store => store.expiredReconciliations timestamp
  sweepAcceptances cfg self acceptances
  sweepReconciliations reconciliations
  return some .housekeeping

/-! ### The process -/

/-- What happens from outside: time passes, a device connects, an administrator asks for a
reconciliation, an HTTP request or the created-deadline loop changes a job, the process dies, and
it is started again. -/
inductive ServerEvent
  | clock (time : Millis)
  | connect (registration : Registration)
  | reconcile (deviceId : DeviceId)
  | request (call : RuntimeCall)
  | stop
  | restart (isFile : String → Bool)

/-- The calls of the HTTP handlers, of `PUSH_FILES` and of the created-deadline loop. -/
def isRequest : RuntimeCall → Bool
  | .createJob .. | .startUpload _ | .markPackaging .. | .publishArtifact .. | .uploadFailed ..
  | .pushFiles _ | .expireCreated .. => true
  | _ => false

/-- The constructor of `PushRuntime` and `on_startup`. -/
def restarted (cfg : Config) (isFile : String → Bool) (s : Server) : Server :=
  let s := { s with memory := { wake := true }, stopped := false }
  (s.called (.restart cfg.acceptReconciliationTimeoutMs cfg.reconciliationTimeoutMs)).called
    (.missingArtifacts isFile)

/-- The server. -/
def system (cfg : Config) : System Server Wait Wait.Answer Task ServerEvent where
  body self
    | .run => schedulerRun
    | .claims => schedulerClaims
    | .dispatch jobId deviceId => dispatchAssignment cfg self jobId deviceId
    | .recover jobId deviceId error => recoverDispatch cfg self jobId deviceId error
    | .socket registration => socket cfg self registration
    | .serve deviceId => serve cfg self deviceId
    | .reconcile deviceId => do
      let _ ← requestReconcile self deviceId
      return none
    | .housekeeping => housekeeping cfg self
  enabled := Server.enabled
  external
    | .clock time, s => { state := { s with clock := time } }
    | .connect registration, s => { state := s, tasks := [.socket registration] }
    | .reconcile deviceId, s => { state := s, tasks := [.reconcile deviceId] }
    | .request call, s =>
      if isRequest call then
        { state := (s.called call).withMemory fun m => { m with wake := true } }
      else { state := s }
    | .stop, s => { state := { s with stopped := true } }
    | .restart isFile, s =>
      { state := restarted cfg isFile s, reset := true, tasks := [.run, .housekeeping] }

/-- Before the first start. -/
def off : Pool Server Wait Wait.Answer Task := { state := {} }

end StylyMdm.Runtime
