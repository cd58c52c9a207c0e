import StylyMdm.Runtime.Scheduler

/-!
# `PushRuntime`

Coroutines of `push_runtime.py` that others are built from: what becomes of a row whose device loses
its connection, the reconciliation request, and the acknowledgement of a result.

`disconnect_device` takes the session away first and then asks the store what the device was doing
(`connectionLost`). The transfer slot of an active row is released. A row that was only waiting for
a slot has a transition of its own; one that may be executed (`isExecuting`) goes to `reconciling`,
with a short deadline if the device has not accepted the command yet. Everything but the removal of
the session happens behind awaits, and all of it under the device lock.
-/

namespace StylyMdm.Runtime

open PushJobs Coop

/-! ### Losing a connection -/

/-- The device states that `register_device` and `disconnect_device` move to reconciliation. -/
def isExecuting (state : DeviceState) : Bool :=
  state ∈ [DeviceState.dispatching, .downloading, .validating, .applying]

/-- What `register_device` and `disconnect_device` do with the active row, after they have removed
the session. -/
def connectionLost (cfg : Config) (deviceId : DeviceId) (reason : String) :
    Program (Except Raised Unit) := do
  match ← query fun store => store.activeAssignment deviceId with
  | none => return .ok ()
  | some row =>
    releaseExact row.jobId deviceId reason
    let result ←
      if row.state = .waitingTransfer then call (.transition .connectionLost row.jobId deviceId)
      else if isExecuting row.state then do
        let short := row.state = .dispatching ∧ row.acceptedAt = none
        let time ← nowMs
        call (.reconciling
          (if short then .disconnectBeforeAccept else .deviceDisconnect) row.jobId deviceId
          row.state
          (time + if short then cfg.acceptReconciliationTimeoutMs else cfg.reconciliationTimeoutMs))
      else return .ok ()
    match result with
    | .ok _ | .error (.conflict _) => return .ok ()
    | .error error => return .error (.store error)

/-- Remove the session of a device. -/
def popSession (deviceId : DeviceId) : Program Unit :=
  setMemory fun m => { m with sessions := Function.update m.sessions deviceId none }

/-- `legacy.devices[device_id]["registration_ready"] = value`. -/
def Memory.setReady (m : Memory) (deviceId : DeviceId) (value : Bool) : Memory :=
  { m with
    devices := Function.update m.devices deviceId
      ((m.devices deviceId).map fun entry => { entry with registrationReady := value }) }

/-- `disconnect_device`. -/
def disconnectDevice (cfg : Config) (self : Nat) (deviceId : DeviceId) :
    Program (Except Raised Unit) := do
  acquire self deviceId
  setMemory fun m =>
    if m.registrationCandidates deviceId = some self then
      { m with
        registrationCandidates := Function.update m.registrationCandidates deviceId none }
    else m
  let m ← memory
  if (m.sessions deviceId).all fun session => session.ws ≠ self then
    release deviceId
    return .ok ()
  popSession deviceId
  setMemory fun m => if m.ownsDevice deviceId self then m.setReady deviceId false else m
  let result ← connectionLost cfg deviceId "device_disconnect"
  release deviceId
  return result

/-! ### Requests to a device -/

/-- `request_reconcile`. -/
def requestReconcile (self : Nat) (deviceId : DeviceId) : Program (Except Raised Unit) := do
  let m ← memory
  match m.sessions deviceId with
  | none => return .ok ()
  | some session =>
    let active ← query fun store => store.activeAssignment deviceId
    match active.filter fun row => row.state = .reconciling with
    | some row =>
      let store ← query id
      match ← sendReconcile self deviceId session store row.jobId with
      | none => return .ok ()
      | some error => return .error (.send error)
    | none =>
      match ← query fun store => store.fencedAssignment deviceId with
      | some ({ blocker := .job jobId, .. }, artifactId) =>
        match ← sendExactReconcile self deviceId session jobId artifactId with
        | none => return .ok ()
        | some error => return .error (.send error)
      | _ =>
        match ← query fun store => store.opaqueReconcileTarget deviceId with
        | none => return .ok ()
        | some (jobId, artifactId) =>
          match ← sendExactReconcile self deviceId session jobId artifactId with
          | none => return .ok ()
          | some error => return .error (.send error)

/-- `_send_result_ack`, with the lock held by the caller. -/
def sendResultAck (deviceId : DeviceId) (session : LiveSession) (jobId : JobId) (accepted : Bool)
    (revision : Option Nat) (reason : Option String) : Program (Except Raised Unit) := do
  let m ← memory
  if m.sessions deviceId ≠ some session then return .ok ()
  match ← sendStr session.ws deviceId (.resultAck jobId accepted revision reason) with
  | none => return .ok ()
  | some error => if error.isExpected then return .ok () else return .error (.send error)

end StylyMdm.Runtime
