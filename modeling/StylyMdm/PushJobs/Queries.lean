import StylyMdm.PushJobs.RuntimeCalls

/-!
# The queries of the runtime

The reading methods of `PushJobStore` and `PushJobManager` that the handlers of the runtime branch
on. They change nothing.

A handler that has awaited such a query acts on an answer that may be old. So the queries are kept
apart from the operations, which check for themselves what they rely on. What is proved of a query
is what it says about the store it was made in: when `active_assignment` finds nothing, no row of
the device is active (`not_active_of_activeAssignment`).
-/

namespace StylyMdm.PushJobs

namespace Store

/-- `assignment`: the row, joined with its job. -/
def assignment (s : Store) (jobId : JobId) (deviceId : DeviceId) : Option (DeviceRow × JobRow) :=
  (s.device? jobId deviceId).bind fun row => (s.job? jobId).map fun job => (row, job)

/-- `active_assignment_for_device`; `LIMIT 1` takes the first active row. -/
def activeAssignment (s : Store) (deviceId : DeviceId) : Option DeviceRow :=
  s.devices.rows.find? fun row =>
    row.deviceId = deviceId && row.state.isActive && (s.job? row.jobId).isSome

/-- `fenced_assignment_for_device`: the fence, with the artifact of the blocking job. -/
def fencedAssignment (s : Store) (deviceId : DeviceId) : Option (FenceRow × Option String) :=
  (s.fence? deviceId).map fun fence =>
    (fence, (fence.blockingJobId.bind s.job?).bind JobRow.artifactId)

/-- `opaque_reconcile_target`. -/
def opaqueReconcileTarget (s : Store) (deviceId : DeviceId) : Option (JobId × Option String) :=
  match s.fence? deviceId with
  | some { blocker := .unknown identity, protocolMode := .jobV1, .. } =>
    parseOpaqueJobIdentity identity
  | _ => none

/-- What a sweep reads of a row: its place and the deadline it found. -/
structure Expired where
  jobId : JobId
  deviceId : DeviceId
  deadline : Millis
deriving DecidableEq, Repr

/-- `expired_acceptances`. -/
def expiredAcceptances (s : Store) (timestamp : Millis) : List Expired :=
  ((s.devices.rows.filter fun row =>
      row.state = .dispatching && row.acceptedAt.isNone &&
        row.acceptDeadline.any (· ≤ timestamp)).insertionSort fun row row' =>
      row.acceptDeadline.getD 0 < row'.acceptDeadline.getD 0 ∨
        row.acceptDeadline.getD 0 = row'.acceptDeadline.getD 0 ∧
          row.enqueueSeq ≤ row'.enqueueSeq).map fun row =>
    ⟨row.jobId, row.deviceId, row.acceptDeadline.getD 0⟩

/-- `expired_reconciliations`. -/
def expiredReconciliations (s : Store) (timestamp : Millis) : List Expired :=
  ((s.devices.rows.filter fun row =>
      row.state = .reconciling && row.reconciliationDeadline.any (· ≤ timestamp)).insertionSort
    fun row row' =>
      row.reconciliationDeadline.getD 0 < row'.reconciliationDeadline.getD 0 ∨
        row.reconciliationDeadline.getD 0 = row'.reconciliationDeadline.getD 0 ∧
          row.enqueueSeq ≤ row'.enqueueSeq).map fun row =>
    ⟨row.jobId, row.deviceId, row.reconciliationDeadline.getD 0⟩

section Facts

variable {s : Store} {k : JobId} {d : DeviceId} {row : DeviceRow}

theorem activeAssignment_eq_some (h : s.activeAssignment d = some row) :
    s.device? row.jobId d = some row ∧ row.deviceId = d ∧ row.state.isActive := by
  have hmem := List.mem_of_find?_eq_some h
  have hp := List.find?_some h
  simp only [Bool.and_eq_true, decide_eq_true_eq] at hp
  obtain ⟨⟨rfl, hactive⟩, -⟩ := hp
  exact ⟨mem_devices.mp hmem, rfl, hactive⟩

/-- When the query finds nothing, no row of the device is active. -/
theorem not_active_of_activeAssignment (hwf : WellFormed s) (h : s.activeAssignment d = none)
    (hrow : s.device? k d = some row) : row.state.isActive = false := by
  rw [activeAssignment, List.find?_eq_none] at h
  obtain ⟨hk, hd⟩ := key_of_device? hrow
  have hnot := h row (mem_devices.mpr (by rw [hk, hd]; exact hrow))
  obtain ⟨job, hjob⟩ := hwf.jobOfRow hrow
  simpa [hd, hk, hjob] using hnot

end Facts

end Store

end StylyMdm.PushJobs
