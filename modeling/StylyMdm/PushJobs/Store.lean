import StylyMdm.Library.Table
import StylyMdm.PushJobs.Domain

/-!
# The push job store: schema, primitive updates, snapshots

The four tables of `push_jobs.sqlite3` with their columns, and the private helpers every
transaction of `push_job_store.py` and `push_job_manager.py` is made of: `_next_enqueue_seq`,
`_increment_revision`, `_fence_visible_job_ids`, `_rederive_job` and `_snapshot`.

Two column constraints are built into the row types. `push_job_devices.attempt` carries
`CHECK (attempt = 1)`, so `DeviceRow.attempt` is the constant `1`. `push_device_fences` carries
a `CHECK` that exactly one of `blocking_job_id` and `blocking_opaque_identity` is set, so a
fence holds one `FenceBlocker`. Primary keys are carried by `Table`.

A transaction is a function into `Except StoreError`: an exception rolls the store back, which
is exactly what dropping the store in the `error` case says.

Statements of SQL that update many rows are updates by a predicate. Where the source reads rows in
the order of a query and that order can be seen in the result, the model sorts as the query does;
where it cannot, the order is the one of the table.
-/

namespace StylyMdm.PushJobs

/-- The id of a job. -/
abbrev JobId := String

/-- The id of a device. -/
abbrev DeviceId := String

/-- A time in milliseconds. -/
abbrev Millis := Nat

/-- The exceptions a store operation can end with. All of them roll the transaction back. -/
inductive StoreError
  | conflict (message : String)
  | notFound (key : String)
  | invalidTransition (message : String)
  | pushJobError (message : String)
  | valueError (message : String)
  | keyError (key : String)
  | integrityError
deriving DecidableEq, Repr

/-! ### Rows -/

/-- A row of `push_jobs`. -/
structure JobRow where
  jobId : JobId
  clientRequestId : String
  requestFingerprint : String
  revision : Nat
  state : JobState
  mode : PushMode
  destPath : String
  sourceLabel : String
  declaredFileCount : Nat
  declaredTotalBytes : Nat
  actualFileCount : Option Nat := none
  actualTotalBytes : Option Nat := none
  artifactId : Option String := none
  dispatchEnabled : Bool := false
  dispatchPausedReason : Option String := none
  createdAt : Millis
  createExpiresAt : Millis
  uploadStartedAt : Option Millis := none
  packagingStartedAt : Option Millis := none
  readyAt : Option Millis := none
  dispatchStartedAt : Option Millis := none
  updatedAt : Millis
  terminalAt : Option Millis := none
  failureCode : Option String := none
  failureDetail : Option String := none
deriving DecidableEq, Repr

/-- A row of `push_job_devices`: the assignment of a job to one of its target devices. -/
structure DeviceRow where
  jobId : JobId
  deviceId : DeviceId
  enqueueSeq : Nat
  targetOrdinal : Nat
  protocolMode : ProtocolMode
  createCapabilitySnapshot : List String
  dispatchCapabilitySnapshot : Option (List String) := none
  state : DeviceState
  queueReason : Option String := none
  acceptReplayCount : Nat := 0
  validatedOffset : Nat := 0
  acceptDeadline : Option Millis := none
  acceptedAt : Option Millis := none
  transferCompletedAt : Option Millis := none
  validationStartedAt : Option Millis := none
  validationCompletedAt : Option Millis := none
  applyStartedAt : Option Millis := none
  updatedAt : Millis
  terminalAt : Option Millis := none
  failureCode : Option String := none
  failureDetail : Option String := none
  added : Option Nat := none
  updated : Option Nat := none
  deleted : Option Nat := none
  reconciliationReason : Option String := none
  reconciliationDeadline : Option Millis := none
deriving DecidableEq, Repr

/-- `CHECK (attempt = 1)`: the column has one value. -/
def DeviceRow.attempt (_ : DeviceRow) : Nat := 1

/-- The primary key of `push_job_devices`. -/
def DeviceRow.key (row : DeviceRow) : JobId × DeviceId := (row.jobId, row.deviceId)

/-- The JSON texts `opaque_identity_for_active` stores as `blocking_opaque_identity`: a
canonical job-v1 identity with `attempt` 1 and an optional artifact, or a token that names no
job. -/
inductive OpaqueIdentity
  | job (jobId : JobId) (artifactId : Option String)
  | token (text : String)
deriving DecidableEq, Repr

/-- The stored text: `json.dumps(payload, sort_keys=True, separators=(",", ":"))`. -/
def OpaqueIdentity.text : OpaqueIdentity → String
  | .job jobId none => "\x7b\"attempt\":1,\"job_id\":\"" ++ jobId ++ "\"\x7d"
  | .job jobId (some artifactId) =>
    "\x7b\"artifact_id\":\"" ++ artifactId ++ "\",\"attempt\":1,\"job_id\":\"" ++ jobId ++
      "\"\x7d"
  | .token text => text

/-- What a fence blocks on: a job of this store, or an execution it does not know. -/
inductive FenceBlocker
  | job (jobId : JobId)
  | unknown (identity : OpaqueIdentity)
deriving DecidableEq, Repr

/-- A row of `push_device_fences`. -/
structure FenceRow where
  deviceId : DeviceId
  blocker : FenceBlocker
  protocolMode : ProtocolMode
  blockingProcessInstanceId : Option String
  reason : String
  createdAt : Millis
  updatedAt : Millis
deriving DecidableEq, Repr

/-- The `blocking_job_id` column. -/
def FenceRow.blockingJobId (fence : FenceRow) : Option JobId :=
  match fence.blocker with
  | .job jobId => some jobId
  | .unknown _ => none

/-- The `blocking_opaque_identity` column. -/
def FenceRow.blockingOpaqueIdentity (fence : FenceRow) : Option OpaqueIdentity :=
  match fence.blocker with
  | .job _ => none
  | .unknown identity => some identity

/-- The `blocking_attempt` column: 1 on a job fence, NULL on an opaque one. -/
def FenceRow.blockingAttempt (fence : FenceRow) : Option Nat :=
  match fence.blocker with
  | .job _ => some 1
  | .unknown _ => none

/-- A row of `push_artifacts`. -/
structure ArtifactRow where
  artifactId : String
  storageName : String
  displayFilename : String
  byteSize : Nat
  sha256 : String
  entryCount : Nat
  createdAt : Millis
deriving DecidableEq, Repr

/-- The contents of the database. `nextEnqueueSeq` is the `server_metadata` entry of that
name. -/
structure Store where
  jobs : Table JobRow.jobId
  devices : Table DeviceRow.key
  fences : Table FenceRow.deviceId
  artifacts : Table ArtifactRow.artifactId
  nextEnqueueSeq : Nat
deriving DecidableEq

/-- The store `_initialize` creates. -/
def Store.initial : Store := ⟨∅, ∅, ∅, ∅, 1⟩

namespace Store

/-- `SELECT … FROM push_jobs WHERE job_id=?`. -/
def job? (s : Store) (jobId : JobId) : Option JobRow := s.jobs.find? jobId

/-- `SELECT … FROM push_job_devices WHERE job_id=? AND device_id=?`. -/
def device? (s : Store) (jobId : JobId) (deviceId : DeviceId) : Option DeviceRow :=
  s.devices.find? (jobId, deviceId)

/-- `SELECT … FROM push_device_fences WHERE device_id=?`. -/
def fence? (s : Store) (deviceId : DeviceId) : Option FenceRow := s.fences.find? deviceId

/-- The device rows of a job. -/
def jobRows (s : Store) (jobId : JobId) : List DeviceRow :=
  s.devices.rows.filter fun row => row.jobId = jobId

/-! ### Primitive updates -/

/-- `UPDATE push_jobs SET … WHERE job_id=?`. -/
def updateJob (s : Store) (jobId : JobId) (f : JobRow → JobRow)
    (hf : ∀ job, (f job).jobId = job.jobId := by intro _; exact Eq.trans rfl rfl) : Store :=
  { s with jobs := s.jobs.update (fun job => job.jobId = jobId) f hf }

/-- `UPDATE push_job_devices SET … WHERE p`. -/
def updateDevices (s : Store) (p : DeviceRow → Bool) (f : DeviceRow → DeviceRow)
    (hf : ∀ row, (f row).key = row.key := by intro _; exact Eq.trans rfl rfl) : Store :=
  { s with devices := s.devices.update p f hf }

/-- `UPDATE push_job_devices SET … WHERE job_id=? AND device_id=?`. -/
def updateDevice (s : Store) (jobId : JobId) (deviceId : DeviceId) (f : DeviceRow → DeviceRow)
    (hf : ∀ row, (f row).key = row.key := by intro _; exact Eq.trans rfl rfl) : Store :=
  s.updateDevices (fun row => row.key = (jobId, deviceId)) f hf

/-- `DELETE FROM push_device_fences WHERE device_id=?`. -/
def deleteFence (s : Store) (deviceId : DeviceId) : Store :=
  { s with fences := s.fences.delete fun fence => fence.deviceId = deviceId }

/-- `INSERT INTO push_device_fences … ON CONFLICT(device_id) DO UPDATE SET …`: an existing
row keeps its `created_at`. -/
def upsertFence (s : Store) (fence : FenceRow) : Store :=
  { s with
    fences := s.fences.upsert fence
      (fun old => { fence with deviceId := old.deviceId, createdAt := old.createdAt })
      fun _ => rfl }

/-- `_increment_revision`. -/
def incrementRevision (s : Store) (jobId : JobId) (timestamp : Millis) : Store :=
  s.updateJob jobId fun job =>
    { job with revision := job.revision + 1, updatedAt := timestamp }

/-- The states `_fence_visible_job_ids` and `NON_TERMINAL_JOB_VALUES` list. -/
def isNonTerminalValue (state : JobState) : Bool :=
  state ∈ [JobState.created, .uploading, .packaging, .ready, .running, .reconciling]

/-- `_fence_visible_job_ids`: the non-terminal jobs that target the device, ordered by id. -/
def fenceVisibleJobIds (s : Store) (deviceId : DeviceId) : List JobId :=
  ((s.jobs.rows.filter fun job =>
      isNonTerminalValue job.state && (s.device? job.jobId deviceId).isSome).map
    JobRow.jobId).insertionSort (· ≤ ·)

/-- The states in which `_rederive_job` leaves the job alone. -/
def rederiveSkips (state : JobState) : Bool :=
  state ∈ [JobState.created, .uploading, .packaging, .ready, .interrupted, .failed]

/-- `_rederive_job`. -/
def rederiveJob (s : Store) (jobId : JobId) (timestamp : Millis) : Except StoreError Store :=
  match s.job? jobId with
  | none => .error (.notFound jobId)
  | some job =>
    if rederiveSkips job.state then .ok s
    else
      match deriveDispatchedJobState ((s.jobRows jobId).map DeviceRow.state) with
      | none => .error (.pushJobError "cannot derive a dispatched job state without device rows")
      | some derived =>
        if derived = job.state then .ok s
        else .ok (s.updateJob jobId fun job =>
          { job with
            state := derived
            terminalAt := if derived.isTerminal then some timestamp else none
            updatedAt := timestamp })

/-! ### Snapshots -/

/-- The `device_fence` entry of a device snapshot. -/
structure FencePayload where
  blockingJobId : Option JobId
  blockingOpaqueIdentity : Option OpaqueIdentity
  blockingAttempt : Option Nat
  protocolMode : ProtocolMode
  reason : String
  createdAt : Millis
  updatedAt : Millis
deriving DecidableEq, Repr

/-- A `failure` entry: present when the code or the detail is a non-empty text. -/
structure Failure where
  code : Option String
  detail : Option String
deriving DecidableEq, Repr

/-- The `result` entry of a device snapshot. -/
structure ResultCounts where
  added : Option Nat
  updated : Option Nat
  deleted : Option Nat
deriving DecidableEq, Repr

/-- One entry of the `devices` dictionary of a snapshot. -/
structure DeviceSnapshot where
  deviceId : DeviceId
  state : DeviceState
  queueReason : Option String
  protocolMode : ProtocolMode
  attempt : Nat
  enqueueSeq : Nat
  validatedOffset : Nat
  acceptedAt : Option Millis
  failure : Option Failure
  result : Option ResultCounts
  reconciliationReason : Option String
  reconciliationDeadline : Option Millis
  deviceFence : Option FencePayload
deriving DecidableEq, Repr

/-- The `artifact` entry of a snapshot; the file columns come from a `LEFT JOIN`. -/
structure ArtifactSnapshot where
  artifactId : String
  url : String
  displayFilename : Option String
  byteSize : Option Nat
  sha256 : Option String
  entryCount : Option Nat
  createdAt : Option Millis
deriving DecidableEq, Repr

/-- The dictionary `_snapshot` returns. -/
structure JobSnapshot where
  jobId : JobId
  clientRequestId : String
  revision : Nat
  state : JobState
  dispatchEnabled : Bool
  dispatchPausedReason : Option String
  mode : PushMode
  destPath : String
  sourceLabel : String
  declaredFileCount : Nat
  declaredTotalBytes : Nat
  actualFileCount : Option Nat
  actualTotalBytes : Option Nat
  createdAt : Millis
  createExpiresAt : Millis
  updatedAt : Millis
  terminalAt : Option Millis
  failure : Option Failure
  artifact : Option ArtifactSnapshot
  aggregate : List (DeviceState × Nat) × Nat
  devices : List DeviceSnapshot
deriving DecidableEq, Repr

/-- The truth value of a nullable text column. -/
def truthy (text : Option String) : Bool := text.any (· ≠ "")

/-- `failure` is set when the code or the detail is. -/
def failurePayload (code detail : Option String) : Option Failure :=
  if truthy code || truthy detail then some ⟨code, detail⟩ else none

/-- The job of the device's latest-enqueued row: `ORDER BY d.enqueue_seq DESC LIMIT 1`. -/
def latestJob (s : Store) (deviceId : DeviceId) : Option JobId :=
  ((s.devices.rows.filter fun row =>
      row.deviceId = deviceId && (s.job? row.jobId).isSome).argmax
    DeviceRow.enqueueSeq).map DeviceRow.jobId

/-- The condition under which a fence is shown by a job: the job blocks it, or the fence is
opaque and the job is the latest of the device. -/
def showsFence (s : Store) (jobId : JobId) (fence : FenceRow) : Bool :=
  match fence.blocker with
  | .job blocking => blocking = jobId
  | .unknown _ => s.latestJob fence.deviceId = some jobId

/-- `fence_payload`. -/
def fencePayload (fence : FenceRow) : FencePayload where
  blockingJobId := fence.blockingJobId
  blockingOpaqueIdentity := fence.blockingOpaqueIdentity
  blockingAttempt := fence.blockingAttempt
  protocolMode := fence.protocolMode
  reason := fence.reason
  createdAt := fence.createdAt
  updatedAt := fence.updatedAt

/-- The `device_fence` that job `jobId` shows for a device. -/
def deviceFence (s : Store) (jobId : JobId) (deviceId : DeviceId) : Option FencePayload :=
  ((s.fence? deviceId).filter fun fence => s.showsFence jobId fence).map fencePayload

/-- One device entry of `_snapshot`. -/
def deviceSnapshot (row : DeviceRow) (fence : Option FencePayload) : DeviceSnapshot where
  deviceId := row.deviceId
  state := row.state
  queueReason := row.queueReason
  protocolMode := row.protocolMode
  attempt := row.attempt
  enqueueSeq := row.enqueueSeq
  validatedOffset := row.validatedOffset
  acceptedAt := row.acceptedAt
  failure := failurePayload row.failureCode row.failureDetail
  result := if row.terminalAt.isSome then some ⟨row.added, row.updated, row.deleted⟩ else none
  reconciliationReason := row.reconciliationReason
  reconciliationDeadline := row.reconciliationDeadline
  deviceFence := fence

/-- The `artifact` entry of `_snapshot`. -/
def artifactSnapshot (s : Store) (artifactId : Option String) : Option ArtifactSnapshot :=
  match artifactId with
  | none => none
  | some id =>
    if id = "" then none
    else
      let artifact := s.artifacts.find? id
      some {
        artifactId := id
        url := "/artifacts/" ++ id
        displayFilename := artifact.map ArtifactRow.displayFilename
        byteSize := artifact.map ArtifactRow.byteSize
        sha256 := artifact.map ArtifactRow.sha256
        entryCount := artifact.map ArtifactRow.entryCount
        createdAt := artifact.map ArtifactRow.createdAt }

/-- `_snapshot` of a job row. -/
def jobSnapshot (s : Store) (job : JobRow) : JobSnapshot where
  jobId := job.jobId
  clientRequestId := job.clientRequestId
  revision := job.revision
  state := job.state
  dispatchEnabled := job.dispatchEnabled
  dispatchPausedReason := job.dispatchPausedReason
  mode := job.mode
  destPath := job.destPath
  sourceLabel := job.sourceLabel
  declaredFileCount := job.declaredFileCount
  declaredTotalBytes := job.declaredTotalBytes
  actualFileCount := job.actualFileCount
  actualTotalBytes := job.actualTotalBytes
  createdAt := job.createdAt
  createExpiresAt := job.createExpiresAt
  updatedAt := job.updatedAt
  terminalAt := job.terminalAt
  failure := failurePayload job.failureCode job.failureDetail
  artifact := s.artifactSnapshot job.artifactId
  aggregate := aggregateDeviceStates ((s.jobRows job.jobId).map DeviceRow.state)
  devices :=
    ((s.jobRows job.jobId).insertionSort fun row row' =>
        row.targetOrdinal ≤ row'.targetOrdinal).map fun row =>
      deviceSnapshot row (s.deviceFence job.jobId row.deviceId)

/-- `_snapshot`. -/
def snapshot (s : Store) (jobId : JobId) : Except StoreError JobSnapshot :=
  match s.job? jobId with
  | none => .error (.notFound jobId)
  | some job => .ok (s.jobSnapshot job)

/-- The closing lines of a transaction on one device row: bump the job's revision, rederive
its state, and build the snapshot that is committed with it. -/
def touchJob (s : Store) (jobId : JobId) (timestamp : Millis) :
    Except StoreError (Store × JobSnapshot) := do
  let s ← (s.incrementRevision jobId timestamp).rederiveJob jobId timestamp
  let snapshot ← s.snapshot jobId
  return (s, snapshot)

/-- `[self._snapshot(conn, job_id) for job_id in ids]`. -/
def snapshots (s : Store) (jobIds : List JobId) : Except StoreError (List JobSnapshot) :=
  jobIds.mapM s.snapshot

end Store

end StylyMdm.PushJobs
