import StylyMdm.PushJobs.Recovery
import StylyMdm.Runtime.Server

/-!
# What exact evidence does to a fence

`_handle_result` and `_handle_reconcile_report` of `push_runtime.py` as functions of the store. The
handlers run under the device lock of the session that delivers the message, and commit at most one
transaction; `now` is its time. What they send and publish is part of their result.

A fence names an execution `(job_id, 1)` either by its job or, when it is opaque, by a canonical
identity. A result lifts both kinds: the opaque one is looked for before anything else. A report
looks for an opaque fence only when the store has no row of the job for the device, so a fence that
was set because a registration named another artifact for a known job is not lifted by it.

`LiftsFence` says when a report lifts the fence that names its execution, in terms of the state
before it; `exact_evidence_lifts_fence` says that this is exactly when it does, in every state that
the calls of the runtime reach, and `exact_evidence_lifts_fence_result` that a final result always
does. Lifting a fence changes no row (`Lifted`).

The run of the last section reports a known job without its artifact, which leaves an opaque fence
on the device, and then reports that the execution is absent. The fence stays.
-/

namespace StylyMdm.Runtime

open PushJobs Store

/-! ### The handlers -/

/-- What a handler leaves: the store, the published snapshots, the acknowledgement, the reason the
transfer slot was released with, and whether the scheduler was woken. -/
structure Handled where
  store : Store
  published : List JobSnapshot := []
  ack : Option Frame := none
  released : Option String := none
  woken : Bool := false

/-- `_nonnegative_int`. -/
def nonnegativeInt (value : Option Int) : Nat := (value.getD 0).toNat

/-- The revision of the first snapshot of the job. -/
def revisionOf (jobId : JobId) (snapshots : List JobSnapshot) : Option Nat :=
  (snapshots.find? fun snapshot => snapshot.jobId = jobId).map JobSnapshot.revision

/-- A result that is answered and changes nothing. -/
def refused (s : Store) (jobId : JobId) (reason : String) : Handled where
  store := s
  ack := some (.resultAck jobId false none (some reason))

/-- `_handle_result` on an unconfirmed row. -/
def handleLateResult (s : Store) (now : Millis) (deviceId : DeviceId) (jobId : JobId) :
    Except StoreError Handled := do
  let (s, accepted, snapshots) ← s.settleLateFencedResult now jobId deviceId 1
  return {
    store := s
    published := snapshots
    ack := some (.resultAck jobId accepted (revisionOf jobId snapshots)
      (if accepted then none else some "stale_result"))
    released := if accepted then some "terminal_result" else none
    woken := accepted }

/-- `failure_code` as `_handle_result` hands it on. -/
def resultFailureCode (payload : Payload) : Option String :=
  match payload.failureCode with
  | some code =>
    if code = "" then (if payload.status = some "fail" then some "apply_failed" else none)
    else some (String.ofList (code.toList.take 128))
  | none => if payload.status = some "fail" then some "apply_failed" else none

/-- The result as `_handle_result` hands it to `settle_result`. -/
def terminalResult (payload : Payload) : Store.TerminalResult where
  success := payload.status = some "success"
  added := nonnegativeInt payload.added
  updated := nonnegativeInt payload.updated
  deleted := nonnegativeInt payload.deleted
  failureCode := resultFailureCode payload
  failureDetail := some (clip ((payload.detail.or payload.error).getD ""))

/-- `_handle_result` on any other row. A row that became unconfirmed before the transaction is
looked at once more. -/
def handleSettledResult (s : Store) (now : Millis) (deviceId : DeviceId) (jobId : JobId)
    (row : DeviceRow) (payload : Payload) : Except StoreError Handled := do
  let wasTerminal := row.state ∈ [DeviceState.succeeded, .failed, .interrupted]
  let (s, accepted, reason, snapshot) ← s.settleResult now jobId deviceId 1 (terminalResult payload)
  let current := snapshot.devices.find? fun device => device.deviceId = deviceId
  if !accepted ∧ reason ∈ [some "unexpected_result_state", some "conflicting_terminal_result"] ∧
      current.any (fun device => device.state = .unconfirmed) then
    let (s, accepted, late) ← s.settleLateFencedResult now jobId deviceId 1
    let shown := if accepted then (late.find? fun item => item.jobId = jobId).getD snapshot
      else snapshot
    return {
      store := s
      published :=
        if !accepted then [] else if !late.isEmpty then late
        else if wasTerminal then [] else [shown]
      ack := some (.resultAck jobId accepted (some shown.revision)
        (if accepted then none else reason))
      released := if accepted then some "terminal_result" else none
      woken := accepted }
  else
    return {
      store := s
      published := if accepted ∧ ¬ wasTerminal then [snapshot] else []
      ack := some (.resultAck jobId accepted (some snapshot.revision) reason)
      released := if accepted then some "terminal_result" else none
      woken := accepted }

/-- The counts of a successful result are there and not negative. -/
def countsGiven (payload : Payload) : Bool :=
  [payload.added, payload.updated, payload.deleted].all fun count => count.any (0 ≤ ·)

/-- `_handle_result`. -/
def handleResult (s : Store) (now : Millis) (deviceId : DeviceId) (payload : Payload) :
    Except StoreError Handled :=
  match payload.jobId with
  | none => .ok { store := s }
  | some jobId =>
    if !isOne payload.attempt then .ok (refused s jobId "stale_result")
    else if payload.status ∉ [some "success", some "fail"] then
      .ok (refused s jobId "malformed_terminal_result")
    else if payload.status = some "success" ∧ !countsGiven payload then
      .ok (refused s jobId "malformed_terminal_result")
    else do
      let (s, matched, snapshots) ← s.clearMatchingOpaqueFence now deviceId jobId 1
      if matched then
        return {
          store := s
          published := snapshots
          ack := some (.resultAck jobId true (revisionOf jobId snapshots) none)
          woken := true }
      else
        match s.assignment jobId deviceId with
        | none => return refused s jobId "unknown_job"
        | some (row, _) =>
          if row.attempt ≠ 1 then return refused s jobId "stale_result"
          else if row.state = .unconfirmed then handleLateResult s now deviceId jobId
          else handleSettledResult s now deviceId jobId row payload

/-- The `status` of a report. -/
def reportStatus (payload : Payload) : Option Store.ReportStatus :=
  match payload.status with
  | some "active" => some .active
  | some "absent" => some .absent
  | some "interrupted" => some .interrupted
  | _ => none

/-- `_handle_reconcile_report` on a reconciling row. -/
def handleReconciling (s : Store) (now : Millis) (deviceId : DeviceId) (jobId : JobId)
    (status : Store.ReportStatus) (payload : Payload) : Except StoreError Handled :=
  match s.reconcileReport now jobId deviceId 1 status payload.phase payload.detail with
  | .error (.conflict _) | .error (.notFound _) => .ok { store := s }
  | .error error => .error error
  | .ok (s, outcome, snapshots) =>
    .ok {
      store := s
      published := snapshots
      released :=
        match outcome with
        | .requeued => some "requeued"
        | .interrupted => some "interrupted"
        | .active =>
          if payload.phase ∈ [some "validating", some "applying"] then some "active" else none
        | .fenceCleared => none
      woken := true }

/-- `_handle_reconcile_report`. -/
def handleReconcileReport (s : Store) (now : Millis) (deviceId : DeviceId) (payload : Payload) :
    Except StoreError Handled :=
  match payload.jobId, reportStatus payload with
  | some jobId, some status =>
    if !isOne payload.attempt then .ok { store := s }
    else
      match s.assignment jobId deviceId with
      | none =>
        if status = .active then .ok { store := s }
        else do
          let (s, matched, snapshots) ← s.clearMatchingOpaqueFence now deviceId jobId 1
          return { store := s, published := snapshots, woken := matched }
      | some (row, _) =>
        if row.state = .unconfirmed ∧ status ≠ .active then do
          let (s, snapshots) ← s.clearMatchingFence now jobId deviceId 1
          return { store := s, published := snapshots, woken := !snapshots.isEmpty }
        else if row.state ≠ .reconciling then .ok { store := s }
        else handleReconciling s now deviceId jobId status payload
  | _, _ => .ok { store := s }

/-! ### Clearing a fence -/

section Clear

variable {s s' : Store} {now : Millis} {d : DeviceId} {jobId : JobId} {fence : FenceRow}

/-- The jobs that a change of a fence bumps exist. -/
theorem exists_job_of_visible {blocking : Option JobId} {k : JobId}
    (h : k ∈ s.visibleJobIds d blocking) : ∃ job, s.job? k = some job := by
  rcases mem_visibleJobIds.mp h with hvisible | ⟨-, hsome⟩ | ⟨-, hlatest⟩
  · obtain ⟨job, hjob, -, -⟩ := mem_fenceVisibleJobIds.mp hvisible
    exact ⟨job, hjob⟩
  · exact Option.isSome_iff_exists.mp hsome
  · rw [latestJob, Option.map_eq_some_iff] at hlatest
    obtain ⟨row, hrow, rfl⟩ := hlatest
    have hmem := (List.mem_filter.mp (List.argmax_mem hrow)).2
    rw [Bool.and_eq_true] at hmem
    exact Option.isSome_iff_exists.mp hmem.2

/-- What is left of the store when the fence of a device is lifted: the rows are as they were. -/
structure Lifted (s s' : Store) (d : DeviceId) : Prop where
  gone : s'.fence? d = none
  rows : s'.devices = s.devices

/-- Deleting a fence and bumping the jobs that show it succeeds, and changes no row. -/
theorem bumpJobs_deleteFence (now : Millis) (d : DeviceId) {ids : List JobId} (hnodup : ids.Nodup)
    (hids : ∀ k ∈ ids, ∃ job, s.job? k = some job) :
    ∃ s' shown, (s.deleteFence d).bumpJobs ids now = .ok (s', shown) ∧ Lifted s s' d := by
  have hexist : ∀ k ∈ ids, ∃ job, ((s.deleteFence d).incrementRevisions ids now).job? k =
      some job := by
    intro k hk
    obtain ⟨job, hjob⟩ := hids k hk
    rw [incrementRevisions_eq hnodup]
    exact ⟨_, job?_updateJobs_of_mem (s := s.deleteFence d) hjob hk⟩
  obtain ⟨shown, hshown⟩ := snapshots_isOk hexist
  refine ⟨(s.deleteFence d).incrementRevisions ids now, shown, ?_, ?_, ?_⟩
  · rw [bumpJobs, hshown]
    rfl
  · rw [incrementRevisions_eq hnodup]
    change (s.deleteFence d).fence? d = none
    rw [fence?_deleteFence, if_pos rfl]
  · rw [incrementRevisions_eq hnodup]
    rfl

/-- A report about a known row lifts the fence of its job. -/
theorem dropJobFence_lifted (now : Millis) (jobId : JobId) (d : DeviceId) :
    ∃ s' shown, s.dropJobFence now jobId d = .ok (s', shown) ∧ Lifted s s' d :=
  bumpJobs_deleteFence now d (nodup_visibleJobIds _ _ _) fun _ hk =>
    exists_job_of_visible (s := s.deleteFence d) hk

/-- A fence for a job is cleared by the report about that job. -/
theorem clearMatchingFence_lifted (now : Millis) (hfence : s.fence? d = some fence)
    (hblocker : fence.blocker = .job jobId) :
    ∃ s' shown, s.clearMatchingFence now jobId d 1 = .ok (s', shown) ∧ Lifted s s' d := by
  have hfor : s.isFencedFor jobId d = true := by simp [isFencedFor, hfence, hblocker]
  rw [clearMatchingFence, if_neg (by simp), if_neg (by simp [hfor])]
  exact dropJobFence_lifted now jobId d

/-- A stored identity names its job in the canonical spelling. -/
theorem canonicalUuid4_of_parse {identity : OpaqueIdentity} {artifact : Option String}
    (h : parseOpaqueJobIdentity identity = some (jobId, artifact)) :
    canonicalUuid4 jobId = some jobId := by
  cases identity with
  | token text => exact absurd h (by simp [parseOpaqueJobIdentity])
  | job named stored =>
    rw [parseOpaqueJobIdentity] at h
    split_ifs at h
    rcases hnamed : canonicalUuid4 named with _ | canonical
    · simp [canonicalOpaqueJobIdentity, hnamed] at h
    · have hjob : canonical = jobId := by
        rcases stored with _ | stored
        · simp_all [canonicalOpaqueJobIdentity]
        · rcases hstored : canonicalUuid4 stored with _ | other
          · simp [canonicalOpaqueJobIdentity, hnamed, hstored] at h
          · simp_all [canonicalOpaqueJobIdentity]
      rw [← hjob]
      exact canonicalUuid4_self hnamed

/-- An opaque fence is cleared by whatever names its execution, in any spelling. -/
theorem clearMatchingOpaqueFence_named (now : Millis) {identity : OpaqueIdentity}
    {named : JobId × Option String} (hfence : s.fence? d = some fence)
    (hblocker : fence.blocker = .unknown identity) (hmode : fence.protocolMode = .jobV1)
    (hparse : parseOpaqueJobIdentity identity = some named)
    (hcanonical : canonicalUuid4 jobId = some named.1) :
    ∃ s' shown, s.clearMatchingOpaqueFence now d jobId 1 = .ok (s', true, shown) ∧
      Lifted s s' d := by
  have hexpected : canonicalOpaqueJobIdentity { jobId := some jobId, attempt := .one } =
      some (.job named.1 none) := by
    simp [canonicalOpaqueJobIdentity, hcanonical]
  obtain ⟨s', shown, hbump, hlifted⟩ := bumpJobs_deleteFence now d
    (s.nodup_visibleJobIds d none) fun _ hk => exists_job_of_visible hk
  refine ⟨s', shown, ?_, hlifted⟩
  obtain ⟨deviceId, blocker, mode, pid, reason, created, updated⟩ := fence
  cases hblocker
  cases hmode
  simp [clearMatchingOpaqueFence, hexpected, hfence, hparse, hbump, bind, Except.bind, pure,
    Except.pure]

/-- A report lifts a fence of an unknown execution whose stored identity parses to the one it names.
-/
theorem clearMatchingOpaqueFence_lifted (now : Millis) {identity : OpaqueIdentity}
    {artifact : Option String} (hfence : s.fence? d = some fence)
    (hblocker : fence.blocker = .unknown identity) (hmode : fence.protocolMode = .jobV1)
    (hparse : parseOpaqueJobIdentity identity = some (jobId, artifact)) :
    ∃ s' shown, s.clearMatchingOpaqueFence now d jobId 1 = .ok (s', true, shown) ∧
      Lifted s s' d :=
  clearMatchingOpaqueFence_named now hfence hblocker hmode hparse (canonicalUuid4_of_parse hparse)

end Clear

/-! ### Exact evidence -/

/-- The fence blocks on the execution `(jobId, 1)`: as a job, or under its canonical identity. -/
inductive FenceNames (fence : FenceRow) (jobId : JobId) : Prop
  | job (hblocker : fence.blocker = .job jobId)
  | unknown {identity : OpaqueIdentity} {artifact : Option String}
      (hblocker : fence.blocker = .unknown identity) (hmode : fence.protocolMode = .jobV1)
      (hparse : parseOpaqueJobIdentity identity = some (jobId, artifact))

/-- A well-formed report that the device has nothing of the execution `(jobId, 1)`. -/
structure GoneReport (jobId : JobId) (payload : Payload) : Prop where
  jobId : payload.jobId = some jobId
  attempt : payload.attempt = .one
  status : payload.status = some "absent" ∨ payload.status = some "interrupted"

/-- A well-formed result of the execution `(jobId, 1)`. -/
structure FinalResult (jobId : JobId) (payload : Payload) : Prop where
  jobId : payload.jobId = some jobId
  attempt : payload.attempt = .one
  status : payload.status = some "fail" ∨ payload.status = some "success" ∧ countsGiven payload

/-- What the outcome of a row consists of: its state, its failure and the counts of its result. -/
def outcome (row : DeviceRow) :
    DeviceState × Option String × Option String × Option Nat × Option Nat × Option Nat :=
  (row.state, row.failureCode, row.failureDetail, row.added, row.updated, row.deleted)

/-- The handler returns, the device has no fence any more, and the outcome of every terminal row is
what it was. -/
def LiftsFence (s : Store) (d : DeviceId) (result : Except StoreError Handled) : Prop :=
  ∃ handled, result = .ok handled ∧ handled.store.fence? d = none ∧
    ∀ k d' row, s.device? k d' = some row → row.state.isTerminal →
      ∃ row', handled.store.device? k d' = some row' ∧ outcome row' = outcome row

section Handlers

variable {s : Store} {now : Millis} {d : DeviceId} {jobId : JobId} {fence : FenceRow}
  {payload : Payload} {handled : Handled} {result : Except StoreError Handled}

/-- A lifted fence is what `LiftsFence` asks of a handler. -/
theorem Lifted.liftsFence (handled : Handled) (h : Lifted s handled.store d)
    (hresult : result = .ok handled) : LiftsFence s d result := by
  refine ⟨handled, hresult, h.gone, fun k d' row hrow _ => ⟨row, ?_, rfl⟩⟩
  rw [device?, h.rows]
  exact hrow

/-- A row has its job. -/
theorem assignment_eq (hwf : WellFormed s) {row : DeviceRow} (hrow : s.device? jobId d = some row) :
    ∃ job, s.assignment jobId d = some (row, job) := by
  obtain ⟨job, hjob⟩ := hwf.jobOfRow hrow
  exact ⟨job, by rw [assignment, hrow, Option.bind_some, hjob, Option.map_some]⟩

/-- The status of the report is one that says the execution is gone. -/
theorem GoneReport.reportStatus_eq (h : GoneReport jobId payload) :
    ∃ status, reportStatus payload = some status ∧ status ≠ .active := by
  rcases h.status with hstatus | hstatus
  · exact ⟨.absent, by simp [reportStatus, hstatus], by decide⟩
  · exact ⟨.interrupted, by simp [reportStatus, hstatus], by decide⟩

/-- A report lifts a fence for its job. -/
theorem handleReconcileReport_job (hwf : WellFormed s) (hex : Exclusive s)
    (h : GoneReport jobId payload) (hfence : s.fence? d = some fence)
    (hblocker : fence.blocker = .job jobId) :
    LiftsFence s d (handleReconcileReport s now d payload) := by
  obtain ⟨status, hstatus, hgone⟩ := h.reportStatus_eq
  obtain ⟨row, hrow, hstate⟩ := hex.fenceUnconfirmed hfence hblocker
  obtain ⟨job, hassignment⟩ := assignment_eq hwf hrow
  obtain ⟨s', shown, hclear, hlifted⟩ := clearMatchingFence_lifted now hfence hblocker
  refine Lifted.liftsFence ⟨s', shown, none, none, !shown.isEmpty⟩ hlifted ?_
  simp [handleReconcileReport, h.jobId, hstatus, h.attempt, isOne, hassignment, hstate, hgone,
    hclear, bind, Except.bind, pure, Except.pure]

/-- A report lifts an opaque fence for its execution when the store has no row of the job. -/
theorem handleReconcileReport_unknown (h : GoneReport jobId payload)
    {identity : OpaqueIdentity} {artifact : Option String}
    (hfence : s.fence? d = some fence) (hblocker : fence.blocker = .unknown identity)
    (hmode : fence.protocolMode = .jobV1)
    (hparse : parseOpaqueJobIdentity identity = some (jobId, artifact))
    (hnone : s.device? jobId d = none) :
    LiftsFence s d (handleReconcileReport s now d payload) := by
  obtain ⟨status, hstatus, hgone⟩ := h.reportStatus_eq
  have hassignment : s.assignment jobId d = none := by rw [assignment, hnone, Option.bind_none]
  obtain ⟨s', shown, hclear, hlifted⟩ :=
    clearMatchingOpaqueFence_lifted now hfence hblocker hmode hparse
  refine Lifted.liftsFence ⟨s', shown, none, none, true⟩ hlifted ?_
  simp [handleReconcileReport, h.jobId, hstatus, h.attempt, isOne, hassignment, hgone, hclear,
    bind, Except.bind, pure, Except.pure]

/-- A report about a job with a row for the device leaves an opaque fence where it is. -/
theorem fence?_handleReconcileReport (hwf : WellFormed s) (h : GoneReport jobId payload)
    {identity : OpaqueIdentity} (hfence : s.fence? d = some fence)
    (hblocker : fence.blocker = .unknown identity) {row : DeviceRow}
    (hrow : s.device? jobId d = some row)
    (hhandled : handleReconcileReport s now d payload = .ok handled) :
    handled.store.fence? d = some fence := by
  obtain ⟨status, hstatus, hgone⟩ := h.reportStatus_eq
  obtain ⟨job, hassignment⟩ := assignment_eq hwf hrow
  have hfor : s.isFencedFor jobId d = false := by simp [isFencedFor, hfence, hblocker]
  rw [handleReconcileReport, h.jobId, hstatus] at hhandled
  simp only [h.attempt, isOne, hassignment] at hhandled
  split_ifs at hhandled with hone hunconfirmed hreconciling
  · exact absurd hone (by decide)
  · rw [clearMatchingFence, if_neg (by simp), hfor] at hhandled
    cases hhandled
    exact hfence
  · cases hhandled
    exact hfence
  · rw [handleReconciling] at hhandled
    split at hhandled
    · cases hhandled
      exact hfence
    · cases hhandled
      exact hfence
    · exact absurd hhandled (by simp)
    · rename_i s' outcome snapshots hreport
      cases hhandled
      -- the operation clears the fence of a job only
      have hchange := (reconcileReport_effect hreport).fenceChange d
      generalize hnew : s'.fence? d = new at hchange
      cases hchange with
      | same => exact hfence
      | cleared hf hclear =>
        rw [hfence, Option.some.injEq] at hf
        subst hf
        cases hclear with
        | report hjob => exact absurd (hjob.symm.trans hblocker) (by simp)

/-- A well-formed result passes the checks of the handler. -/
theorem FinalResult.checks (h : FinalResult jobId payload) :
    ¬ (!isOne payload.attempt) = true ∧ payload.status ∈ [some "success", some "fail"] ∧
      ¬ (payload.status = some "success" ∧ !countsGiven payload) := by
  refine ⟨by simp [h.attempt, isOne], ?_, ?_⟩
  · rcases h.status with hfail | ⟨hsuccess, -⟩
    · simp [hfail]
    · simp [hsuccess]
  · rcases h.status with hfail | ⟨-, hgiven⟩
    · simp [hfail]
    · simp [hgiven]

/-- A result lifts the fence, of whichever kind. -/
theorem handleResult_lifts (hwf : WellFormed s) (hex : Exclusive s) (h : FinalResult jobId payload)
    (hfence : s.fence? d = some fence) (hnames : FenceNames fence jobId) :
    LiftsFence s d (handleResult s now d payload) := by
  obtain ⟨hone, hstatus, hcounts⟩ := h.checks
  cases hnames with
  | job hblocker =>
    obtain ⟨row, hrow, hstate⟩ := hex.fenceUnconfirmed hfence hblocker
    obtain ⟨job, hassignment⟩ := assignment_eq hwf hrow
    have hunmatched : s.clearMatchingOpaqueFence now d jobId 1 = .ok (s, false, []) := by
      obtain ⟨deviceId, blocker, mode, pid, reason, created, updated⟩ := fence
      cases hblocker
      simp only [clearMatchingOpaqueFence, hfence]
      split <;> rfl
    have hfor : s.isFencedFor jobId d = true := by simp [isFencedFor, hfence, hblocker]
    obtain ⟨s', shown, hdrop, hlifted⟩ := dropJobFence_lifted (s := s) now jobId d
    have hlate : s.settleLateFencedResult now jobId d 1 = .ok (s', true, shown) := by
      simp [settleLateFencedResult, hrow, hstate, hfence, hfor, hdrop, bind, Except.bind, pure,
        Except.pure]
    refine Lifted.liftsFence ⟨s', shown,
      some (.resultAck jobId true (revisionOf jobId shown) none), some "terminal_result", true⟩
      hlifted ?_
    rw [handleResult, h.jobId]
    simp only [if_neg hone, if_neg hcounts, hstatus, not_true_eq_false, if_false, hunmatched,
      hassignment, hstate, DeviceRow.attempt, handleLateResult, hlate, bind, Except.bind, pure,
      Except.pure]
    simp
  | unknown hblocker hmode hparse =>
    obtain ⟨s', shown, hclear, hlifted⟩ :=
      clearMatchingOpaqueFence_lifted now hfence hblocker hmode hparse
    refine Lifted.liftsFence ⟨s', shown,
      some (.resultAck jobId true (revisionOf jobId shown) none), none, true⟩ hlifted ?_
    rw [handleResult, h.jobId]
    simp only [if_neg hone, if_neg hcounts, hstatus, not_true_eq_false, if_false, hclear, bind,
      Except.bind, pure, Except.pure]
    simp

end Handlers

/-- **Exact evidence lifts the fence, with one exception.** In every state that the runtime's calls
reach and in which a device is fenced for `(jobId, 1)`: a well-formed result of that execution lifts
the fence, and a well-formed report that the device has nothing of it does so exactly when the
fence is not an opaque one that stands beside a row of the same job for the device. -/
theorem exact_evidence_lifts_fence (indexed : Bool) (calls : List (Millis × RuntimeCall))
    (d : DeviceId) (jobId : JobId) (fence : FenceRow)
    (hfence : (runtimeExec indexed initial calls).fence? d = some fence)
    (hnames : FenceNames fence jobId) :
    let s := runtimeExec indexed initial calls
    (∀ now payload, GoneReport jobId payload →
      (LiftsFence s d (handleReconcileReport s now d payload) ↔
        ¬ (fence.blockingOpaqueIdentity.isSome ∧ (s.device? jobId d).isSome))) ∧
    ∀ now payload, FinalResult jobId payload →
      LiftsFence s d (handleResult s now d payload) := by
  intro s
  have hwf : WellFormed s := (reachable_runtimeExec indexed calls).wellFormed
  have hex : Exclusive s := Exclusive.runtimeExec calls
  refine ⟨fun now payload h => ?_, fun now payload h => handleResult_lifts hwf hex h hfence hnames⟩
  cases hnames with
  | job hblocker =>
    have hnot : ¬ fence.blockingOpaqueIdentity.isSome := by
      simp [FenceRow.blockingOpaqueIdentity, hblocker]
    exact ⟨fun _ hboth => hnot hboth.1, fun _ =>
      handleReconcileReport_job hwf hex h hfence hblocker⟩
  | unknown hblocker hmode hparse =>
    have hunknown : fence.blockingOpaqueIdentity.isSome := by
      simp [FenceRow.blockingOpaqueIdentity, hblocker]
    constructor
    · rintro ⟨handled, hhandled, hgone, -⟩ ⟨-, hsome⟩
      obtain ⟨row, hrow⟩ := Option.isSome_iff_exists.mp hsome
      rw [fence?_handleReconcileReport hwf h hfence hblocker hrow hhandled] at hgone
      exact absurd hgone (by simp)
    · intro hnot
      refine handleReconcileReport_unknown h hfence hblocker hmode hparse ?_
      by_contra hsome
      exact hnot ⟨hunknown, Option.isSome_iff_ne_none.mpr hsome⟩

/-- The identity of a job that is dispatched to a device. -/
private def dispatchedId : JobId := "11111111-1111-4111-8111-111111111111"

/-- A job is dispatched to a device, which registers again with an active execution of that job and
no artifact. The device is fenced opaquely, and the row fails. -/
private def mismatchedRun : List (Millis × RuntimeCall) :=
  [(10, .createJob dispatchedId (pushRequest "request-1" "quest-1") jobV1Protocols 1000),
   (20, .startUpload dispatchedId),
   (30, .markPackaging dispatchedId 1 10),
   (40, .publishArtifact dispatchedId ⟨"artifact-1", "artifact-1.zip", "files.zip", 10, "00", 1⟩),
   (50, .pushFiles dispatchedId),
   (60, .claim ["quest-1"]),
   (70, .prepare dispatchedId "quest-1" .jobV1 ["push_job_v1"] (some 1070)),
   (80, .unknownActive "quest-1"
      { jobId := some dispatchedId, attempt := .one, phase := some "applying" } .jobV1
      (some "process-1") "REGISTER active state conflicted with the canonical artifact"),
   (80, .transition (.artifactMismatch .dispatching) dispatchedId "quest-1")]

/-- The fence of the registration. -/
private def mismatchFence : FenceRow :=
  opaqueFence 80 "quest-1" (.job dispatchedId none) .jobV1 (some "process-1")
    "REGISTER active state conflicted with the canonical artifact"

/-- After the run the fence stands, and the row of the job has failed. -/
private theorem mismatchFence_stands :
    (runtimeExec true initial mismatchedRun).fence? "quest-1" = some mismatchFence ∧
    ((runtimeExec true initial mismatchedRun).device? dispatchedId "quest-1").map DeviceRow.state =
      some .failed := by
  decide +kernel

/-- The fence is the one the report names. -/
private theorem mismatchFence_names : FenceNames mismatchFence dispatchedId :=
  @FenceNames.unknown mismatchFence dispatchedId (.job dispatchedId none) none rfl rfl
    (by decide +kernel)

/-- The result of the execution lifts the fence of the registration. -/
theorem exact_evidence_lifts_fence_result :
    (runtimeExec true initial mismatchedRun).fence? "quest-1" = some mismatchFence ∧
    LiftsFence (runtimeExec true initial mismatchedRun) "quest-1"
      (handleResult (runtimeExec true initial mismatchedRun) 90 "quest-1"
        { type := .pushFilesResult, jobId := some dispatchedId, attempt := .one
          status := some "fail" }) :=
  ⟨mismatchFence_stands.1, (exact_evidence_lifts_fence true mismatchedRun "quest-1" dispatchedId
    mismatchFence mismatchFence_stands.1 mismatchFence_names).2 90 _ ⟨rfl, rfl, .inl rfl⟩⟩

/-- The report that the device has nothing of the execution does not. -/
theorem absent_report_keeps_fence :
    ¬ ∀ (calls : List (Millis × RuntimeCall)) (d : DeviceId) (jobId : JobId) (fence : FenceRow),
      RuntimeRun true initial calls →
      (runtimeExec true initial calls).fence? d = some fence → FenceNames fence jobId →
      ∀ now payload, GoneReport jobId payload →
        LiftsFence (runtimeExec true initial calls) d
          (handleReconcileReport (runtimeExec true initial calls) now d payload) := by
  intro h
  have hrun : RuntimeRun true initial mismatchedRun :=
    ⟨trivial, trivial, trivial, trivial, trivial, trivial, trivial, trivial, rfl, trivial⟩
  have hreport : GoneReport dispatchedId
      { type := .pushReconcileReport, jobId := some dispatchedId, attempt := .one
        status := some "absent" } := ⟨rfl, rfl, .inl rfl⟩
  obtain ⟨handled, hhandled, hgone, -⟩ := h mismatchedRun "quest-1" dispatchedId mismatchFence hrun
    mismatchFence_stands.1 mismatchFence_names 90 _ hreport
  obtain ⟨row, hrow, -⟩ := Option.map_eq_some_iff.mp mismatchFence_stands.2
  have hkept := fence?_handleReconcileReport (reachable_runtimeExec true mismatchedRun).wellFormed
    hreport mismatchFence_stands.1 rfl hrow hhandled
  rw [hgone] at hkept
  exact absurd hkept (by simp)

end StylyMdm.Runtime
