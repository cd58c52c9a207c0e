import StylyMdm.Library.Run
import StylyMdm.PushJobs.Manager

/-!
# The store as a transition system

`Op` names the operations of `PushJobStore` and `PushJobManager` that can change the database,
with their arguments. `Op.run` executes one of them and keeps, of what the method returns, the
part its callers branch on (`Reply`). A run of the store is a list of operations, each with the
value of `now_ms()` its transaction reads: `Store.step` commits an operation that succeeds and
leaves the store alone when it raises.

A crash of the server between two transactions changes nothing in the store, so the runs with
crashes are among these runs: the next operation is then `recoverStartupSync`.

Nothing is assumed of the times of a run. They may go backwards, as a wall clock can.
`PushJobs.RuntimeCalls` restricts the arguments to those that the runtime passes; results that do
not need this are proved for all runs of `Store.step`.
-/

namespace StylyMdm.PushJobs

/-- The operations that can change the database. -/
inductive Op
  | createJob (jobId : JobId) (request : CanonicalCreateRequest)
      (targetProtocols : DeviceId → Option (ProtocolMode × List String)) (createTimeoutMs : Nat)
  | startUpload (jobId : JobId)
  | markPackaging (jobId : JobId) (actualFileCount : Nat) (actualTotalBytes : Nat)
  | publishArtifact (jobId : JobId) (artifact : Store.PublishedArtifact)
  | failPreDispatch (jobId : JobId) (state : JobState) (code detail : String)
  | enableDispatch (jobId : JobId)
  | transitionDevice (jobId : JobId) (deviceId : DeviceId) (expected : Option (List DeviceState))
      (target : DeviceState) (fields : Store.DeviceFields) (allowTerminalIdempotent : Bool)
  | settleResult (jobId : JobId) (deviceId : DeviceId) (attempt : Nat)
      (result : Store.TerminalResult)
  | markReconciling (jobId : JobId) (deviceId : DeviceId) (expected : List DeviceState)
      (reason : String) (deadline : Millis)
  | expireCreated (jobId : JobId) (expectedDeadline : Option Millis)
  | recoverStartupSync (acceptReconciliationTimeoutMs : Nat) (reconciliationTimeoutMs : Nat)
  | claimNext (online : List DeviceId)
  | prepareDispatch (jobId : JobId) (deviceId : DeviceId) (protocolMode : ProtocolMode)
      (liveCapabilities : List String) (acceptDeadline : Option Millis)
  | markAcceptanceReconciling (jobId : JobId) (deviceId : DeviceId)
      (expectedAcceptDeadline reconciliationDeadline : Millis)
  | markUnconfirmed (jobId : JobId) (deviceId : DeviceId) (processInstanceId : Option String)
      (detail : String) (expectedDeadline observedNow : Option Millis)
  | addOpaqueFence (deviceId : DeviceId) (opaqueIdentity : OpaqueIdentity)
      (protocolMode : ProtocolMode) (processInstanceId : Option String) (reason : String)
  | clearFenceOnProcessReplacement (deviceId : DeviceId) (processInstanceId : Option String)
      (hasJobV1 : Bool)
  | clearMatchingFence (jobId : JobId) (deviceId : DeviceId) (attempt : Nat)
  | clearMatchingOpaqueFence (deviceId : DeviceId) (jobId : JobId) (attempt : Nat)
  | settleLateFencedResult (jobId : JobId) (deviceId : DeviceId) (attempt : Nat)
  | reconcileReport (jobId : JobId) (deviceId : DeviceId) (attempt : Nat)
      (status : Store.ReportStatus) (phase detail : Option String)
  | reconcileMissingArtifactsSync (isFile : String → Bool)

/-- What the callers of an operation branch on, besides exceptions. -/
inductive Reply
  | done
  | flag (value : Bool)
  | claimed (row : Option DeviceRow)
  | settled (accepted : Bool) (reason : Option String)
  | outcome (value : Store.ReportOutcome)
deriving DecidableEq, Repr

/-- Execute an operation at time `now`. -/
def Op.run (indexed : Bool) (now : Millis) (s : Store) : Op → Except StoreError (Store × Reply)
  | .createJob jobId request targetProtocols createTimeoutMs =>
    (s.createJob now jobId request targetProtocols createTimeoutMs).map fun r =>
      (r.1, .flag r.2.1)
  | .startUpload jobId => (s.startUpload now jobId).map fun r =>
      (r.1, .flag (match r.2 with | .started _ => true | .deadlineExpired _ => false))
  | .markPackaging jobId actualFileCount actualTotalBytes =>
    (s.markPackaging now jobId actualFileCount actualTotalBytes).map fun r => (r.1, .done)
  | .publishArtifact jobId artifact =>
    (s.publishArtifact now jobId artifact).map fun r => (r.1, .done)
  | .failPreDispatch jobId state code detail =>
    (s.failPreDispatch now jobId state code detail).map fun r => (r.1, .done)
  | .enableDispatch jobId => (s.enableDispatch now jobId).map fun r => (r.1, .flag r.2.1)
  | .transitionDevice jobId deviceId expected target fields allowTerminalIdempotent =>
    (s.transitionDevice indexed now jobId deviceId expected target fields
      allowTerminalIdempotent).map fun r => (r.1, .done)
  | .settleResult jobId deviceId attempt result =>
    (s.settleResult now jobId deviceId attempt result).map fun r =>
      (r.1, .settled r.2.1 r.2.2.1)
  | .markReconciling jobId deviceId expected reason deadline =>
    (s.markReconciling indexed now jobId deviceId expected reason deadline).map fun r =>
      (r.1, .done)
  | .expireCreated jobId expectedDeadline =>
    (s.expireCreated now jobId expectedDeadline).map fun r => (r.1, .flag r.2.isSome)
  | .recoverStartupSync acceptReconciliationTimeoutMs reconciliationTimeoutMs =>
    (s.recoverStartupSync now acceptReconciliationTimeoutMs reconciliationTimeoutMs).map
      fun r => (r.1, .done)
  | .claimNext online =>
    (s.claimNext indexed now online).map fun r => (r.1, .claimed (r.2.map Prod.fst))
  | .prepareDispatch jobId deviceId protocolMode liveCapabilities acceptDeadline =>
    (s.prepareDispatch now jobId deviceId protocolMode liveCapabilities acceptDeadline).map
      fun r => (r.1, .done)
  | .markAcceptanceReconciling jobId deviceId expectedAcceptDeadline reconciliationDeadline =>
    (s.markAcceptanceReconciling now jobId deviceId expectedAcceptDeadline
      reconciliationDeadline).map fun r => (r.1, .flag r.2.1)
  | .markUnconfirmed jobId deviceId processInstanceId detail expectedDeadline observedNow =>
    (s.markUnconfirmed now jobId deviceId processInstanceId detail expectedDeadline
      observedNow).map fun r => (r.1, .done)
  | .addOpaqueFence deviceId opaqueIdentity protocolMode processInstanceId reason =>
    (s.addOpaqueFence now deviceId opaqueIdentity protocolMode processInstanceId reason).map
      fun r => (r.1, .done)
  | .clearFenceOnProcessReplacement deviceId processInstanceId hasJobV1 =>
    (s.clearFenceOnProcessReplacement now deviceId processInstanceId hasJobV1).map
      fun r => (r.1, .done)
  | .clearMatchingFence jobId deviceId attempt =>
    (s.clearMatchingFence now jobId deviceId attempt).map fun r => (r.1, .done)
  | .clearMatchingOpaqueFence deviceId jobId attempt =>
    (s.clearMatchingOpaqueFence now deviceId jobId attempt).map fun r => (r.1, .flag r.2.1)
  | .settleLateFencedResult jobId deviceId attempt =>
    (s.settleLateFencedResult now jobId deviceId attempt).map fun r => (r.1, .flag r.2.1)
  | .reconcileReport jobId deviceId attempt status phase detail =>
    (s.reconcileReport now jobId deviceId attempt status phase detail).map fun r =>
      (r.1, .outcome r.2.1)
  | .reconcileMissingArtifactsSync isFile =>
    (s.reconcileMissingArtifactsSync now isFile).map fun r => (r.1, .done)

namespace Store

/-- Commit an operation, or leave the store alone when it raises. -/
def step (indexed : Bool) (s : Store) (call : Millis × Op) : Store :=
  match call.2.run indexed call.1 s with
  | .ok r => r.1
  | .error _ => s

/-- The store after a list of operations. -/
abbrev exec (indexed : Bool) (s : Store) (calls : List (Millis × Op)) : Store :=
  Run.exec (step indexed) s calls

/-- The stores some sequence of operations produces from the empty one. -/
def Reachable (indexed : Bool) (s : Store) : Prop :=
  ∃ calls, s = exec indexed initial calls

end Store

/-! ### Requests for concrete runs -/

/-- A request for one device. -/
def pushRequest (clientRequestId : String) (device : DeviceId) :
    CanonicalCreateRequest where
  clientRequestId := clientRequestId
  targetDevices := [device]
  mode := .push
  destPath := "/sdcard/files"
  source := ⟨"files", 1, 10⟩
  fingerprint := clientRequestId
  targets_ne_nil := by simp
  targets_sorted := by simp

/-- Every target speaks the job protocol. -/
def jobV1Protocols : DeviceId → Option (ProtocolMode × List String) :=
  fun _ => some (.jobV1, ["push_job_v1"])

end StylyMdm.PushJobs
