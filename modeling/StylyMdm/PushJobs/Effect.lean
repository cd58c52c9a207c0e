import StylyMdm.PushJobs.Ops
import StylyMdm.PushJobs.StoreLemmas

/-!
# What a committed operation can do

`Effect now s op s'` lists the shapes of change an operation can commit, in closed form and with
the guards under which it commits them: nothing at all, one job row (`JobEdit`), one device row
followed by a touch of its job (`RowEdit`), a fence written or cleared (`FenceClear`), a job
created, and the two bulk updates of a restart. `step_effect` says that these are all. The
invariants of the store are proved from this list, so none of them unfolds an operation.

The guards are those that invariants need: the state a row was in, the evidence for lifting a fence,
what a claim has looked at. An operation that raises is the first shape. When a method of the source
changes, its lemma in `PushJobs.OpEffect` changes with it, and the invariants only if the method
gets a shape that is not listed.

Two loops are not maps over rows, since each round can change what the next one reads. They get
specifications here (`insertTargets_spec`, `failMissingArtifact_spec`).
-/

namespace StylyMdm.PushJobs

namespace Store

/-! ### The two loops that are not maps over job ids -/

/-- What the target loop of `create_job` adds: one queued row per target, in order, with
consecutive values of `enqueue_seq`. -/
structure TargetRows (now : Millis) (jobId : JobId) (startSeq ordinal : Nat)
    (targets : List DeviceId) (rows : List DeviceRow) : Prop where
  devices : rows.map DeviceRow.deviceId = targets
  seqs : rows.map DeviceRow.enqueueSeq = List.range' (startSeq + ordinal) targets.length
  fresh : ∀ row ∈ rows, ∃ i d protocol capabilities,
    row = newDeviceRow now jobId startSeq i d protocol capabilities

theorem insertTargets_spec {targetProtocols : DeviceId → Option (ProtocolMode × List String)}
    {now : Millis} {jobId : JobId} {startSeq : Nat} {targets : List DeviceId} {ordinal : Nat}
    {s s' : Store}
    (h : insertTargets targetProtocols now jobId startSeq targets ordinal s = .ok s') :
    ∃ rows, TargetRows now jobId startSeq ordinal targets rows ∧
      ∃ devices, devices.rows = s.devices.rows ++ rows ∧ s' = { s with devices } := by
  induction targets generalizing ordinal s with
  | nil =>
    cases h
    exact ⟨[], ⟨rfl, rfl, by simp⟩, s'.devices, by simp, rfl⟩
  | cons d rest ih =>
    rw [insertTargets] at h
    split at h
    · exact absurd h (by simp)
    · rename_i protocol capabilities _
      obtain ⟨t, ht, hrest⟩ := Except.bind_eq_ok.mp h
      rw [insertDevice] at ht
      split at ht
      · exact absurd ht (by simp)
      · split at ht
        · exact absurd ht (by simp)
        · rename_i devices hinsert
          cases ht
          obtain ⟨rows, hrows, devices', hdev, rfl⟩ := ih hrest
          obtain ⟨-, hadd⟩ := Table.insert?_eq_some.mp hinsert
          refine ⟨newDeviceRow now jobId startSeq ordinal d protocol capabilities :: rows,
            ⟨?_, ?_, ?_⟩, devices', ?_, rfl⟩
          · rw [List.map_cons, hrows.devices]
            rfl
          · rw [List.map_cons, hrows.seqs, List.length_cons, List.range'_succ]
            rfl
          · intro row hrow
            rcases List.mem_cons.mp hrow with rfl | hrow
            · exact ⟨_, _, _, _, rfl⟩
            · exact hrows.fresh row hrow
          · rw [hdev, hadd, List.append_assoc]
            rfl

/-- The columns of a device row that no operation changes after the insert. -/
def place (row : DeviceRow) : JobId × DeviceId × Nat × Nat :=
  (row.jobId, row.deviceId, row.enqueueSeq, row.targetOrdinal)

/-- The loop of `reconcile_missing_artifacts_sync` fails the listed jobs and leaves every other
job alone: a `ready` job as a whole, a dispatched one through the rows that need the file. -/
structure ArtifactsFailed (now : Millis) (missing : List (JobRow × String)) (s s' : Store) :
    Prop where
  fences : s'.fences = s.fences
  artifacts : s'.artifacts = s.artifacts
  nextEnqueueSeq : s'.nextEnqueueSeq = s.nextEnqueueSeq
  layout : s'.devices.rows.map place = s.devices.rows.map place
  other : ∀ k, k ∉ missing.map (·.1.jobId) → s'.job? k = s.job? k ∧ s'.jobRows k = s.jobRows k
  ready : ∀ entry ∈ missing, entry.1.state = .ready →
    s'.job? entry.1.jobId = some (artifactMissingJob now entry.2 entry.1) ∧
      s'.jobRows entry.1.jobId = s.jobRows entry.1.jobId
  dispatched : ∀ entry ∈ missing, entry.1.state ≠ .ready →
    s'.job? entry.1.jobId = some (s'.touchedJob now entry.1) ∧
      s'.jobRows entry.1.jobId = (s.jobRows entry.1.jobId).map fun row =>
        if needsArtifact row.state then artifactMissingRow now entry.2 row else row

/-- One round of the loop. -/
theorem failMissingArtifact_spec {now : Millis} {job : JobRow} {storageName : String}
    {s s' : Store} (hjob : s.job? job.jobId = some job)
    (h : failMissingArtifact now s (job, storageName) = .ok s') :
    ArtifactsFailed now [(job, storageName)] s s' := by
  rw [failMissingArtifact] at h
  simp only at h
  split at h
  · rename_i hready
    cases h
    refine ⟨rfl, rfl, rfl, rfl, ?_, ?_, ?_⟩
    · intro k hk
      exact ⟨job?_updateJob_of_ne (by simpa using hk), rfl⟩
    · rintro entry hentry -
      obtain rfl := List.mem_singleton.mp hentry
      exact ⟨by rw [job?_updateJob_self, hjob]; rfl, rfl⟩
    · intro entry hentry hne
      obtain rfl := List.mem_singleton.mp hentry
      exact absurd hready hne
  · rename_i hready
    obtain rfl := rederiveJob_incrementRevision_eq h
    refine ⟨rfl, rfl, rfl, ?_, ?_, ?_, ?_⟩
    · simp only [touched, updateJob, updateDevices, Table.update, List.map_map]
      refine List.map_congr_left fun row _ => ?_
      by_cases hp : (row.jobId = job.jobId && needsArtifact row.state)
      · simp only [Function.comp_apply, hp, if_true]
        rfl
      · simp only [Function.comp_apply, hp]
        rfl
    · intro k hk
      have hne : k ≠ job.jobId := by simpa using hk
      refine ⟨job?_updateJob_of_ne hne, ?_⟩
      rw [touched, jobRows_updateJob, jobRows_updateDevices]
      refine (List.map_congr_left fun row hrow => ?_).trans (List.map_id _)
      have hid : row.jobId = k := (key_of_device? (mem_jobRows.mp hrow)).1
      simp [hid, hne]
    · intro entry hentry heq
      obtain rfl := List.mem_singleton.mp hentry
      exact absurd heq hready
    · rintro entry hentry -
      obtain rfl := List.mem_singleton.mp hentry
      refine ⟨by rw [touched, job?_updateJob_self, job?_updateDevices, hjob]; rfl, ?_⟩
      rw [touched, jobRows_updateJob, jobRows_updateDevices]
      refine List.map_congr_left fun row hrow => ?_
      have hid : row.jobId = job.jobId := (key_of_device? (mem_jobRows.mp hrow)).1
      simp [hid]

/-- The whole loop. Each round touches one job, and no job is listed twice. -/
theorem foldlM_failMissingArtifact_spec {now : Millis} {missing : List (JobRow × String)}
    {s s' : Store} (hnodup : (missing.map (·.1.jobId)).Nodup)
    (hjob : ∀ entry ∈ missing, s.job? entry.1.jobId = some entry.1)
    (h : missing.foldlM (failMissingArtifact now) s = .ok s') :
    ArtifactsFailed now missing s s' := by
  induction missing generalizing s with
  | nil =>
    cases h
    exact ⟨rfl, rfl, rfl, rfl, fun _ _ => ⟨rfl, rfl⟩, by simp, by simp⟩
  | cons entry rest ih =>
    rw [List.foldlM_cons] at h
    obtain ⟨t, ht, hloop⟩ := Except.bind_eq_ok.mp h
    rw [List.map_cons, List.nodup_cons] at hnodup
    have hone := failMissingArtifact_spec (hjob entry (by simp)) ht
    have hne : ∀ entry' ∈ rest, entry'.1.jobId ≠ entry.1.jobId := by
      intro entry' hmem heq
      exact hnodup.1 (heq ▸ List.mem_map_of_mem hmem)
    have hrest := ih hnodup.2 (fun entry' hmem => by
      rw [(hone.other _ (by simpa using hne entry' hmem)).1]
      exact hjob entry' (by simp [hmem])) hloop
    have hkeep := hrest.other entry.1.jobId hnodup.1
    have hprev : ∀ entry' ∈ rest, t.jobRows entry'.1.jobId = s.jobRows entry'.1.jobId :=
      fun entry' hmem => (hone.other _ (by simpa using hne entry' hmem)).2
    refine ⟨hrest.fences.trans hone.fences, hrest.artifacts.trans hone.artifacts,
      hrest.nextEnqueueSeq.trans hone.nextEnqueueSeq, hrest.layout.trans hone.layout, ?_, ?_, ?_⟩
    · intro k hk
      simp only [List.map_cons, List.mem_cons, not_or] at hk
      obtain ⟨hj, hr⟩ := hrest.other k hk.2
      obtain ⟨hj', hr'⟩ := hone.other k (by simpa using hk.1)
      exact ⟨hj.trans hj', hr.trans hr'⟩
    · intro entry' hmem hready
      rcases List.mem_cons.mp hmem with rfl | hmem
      · obtain ⟨hj, hr⟩ := hone.ready _ (by simp) hready
        exact ⟨hkeep.1.trans hj, hkeep.2.trans hr⟩
      · obtain ⟨hj, hr⟩ := hrest.ready _ hmem hready
        exact ⟨hj, hr.trans (hprev _ hmem)⟩
    · intro entry' hmem hready
      rcases List.mem_cons.mp hmem with rfl | hmem
      · obtain ⟨hj, hr⟩ := hone.dispatched _ (by simp) hready
        refine ⟨hkeep.1.trans (hj.trans ?_), hkeep.2.trans hr⟩
        have hstates : s'.jobStates entry'.1.jobId = t.jobStates entry'.1.jobId := by
          rw [jobStates, jobStates, hkeep.2]
        simp only [touchedJob, rederived, bumpedJob, hstates]
      · obtain ⟨hj, hr⟩ := hrest.dispatched _ hmem hready
        exact ⟨hj, hr.trans (by rw [hprev _ hmem])⟩

/-! ### The edits of single rows -/

/-- The updates of one job row, each with its guard. -/
inductive JobEdit (now : Millis) (job : JobRow) : Op → (JobRow → JobRow) → Prop
  | uploadStarted (hstate : job.state = .created) (hnow : now < job.createExpiresAt) :
    JobEdit now job (.startUpload job.jobId) (uploadStarted now)
  | uploadNotStarted (hstate : job.state = .created) (hnow : job.createExpiresAt ≤ now) :
    JobEdit now job (.startUpload job.jobId) (uploadNotStarted now)
  | expired {deadline : Option Millis} (hstate : job.state = .created)
      (hnow : job.createExpiresAt ≤ now) :
    JobEdit now job (.expireCreated job.jobId deadline) (uploadNotStarted now)
  | packagingStarted {files bytes : Nat} (hstate : job.state = .uploading) :
    JobEdit now job (.markPackaging job.jobId files bytes) (packagingStarted now files bytes)
  | preDispatchFailed {state : JobState} {code detail : String}
      (hfailed : state = .failed ∨ state = .interrupted)
      (hvalid : validJobTransition job.state state) :
    JobEdit now job (.failPreDispatch job.jobId state code detail)
      (preDispatchFailed now state code detail)
  | gateOpened (hstate : job.state = .ready ∨ job.state = .running ∨ job.state = .reconciling)
      (hclosed : job.dispatchEnabled = false) :
    JobEdit now job (.enableDispatch job.jobId) (gateOpened now)

/-- The fields `mark_reconciling` hands to `transition_device`. -/
def reconcilingFields (reason : String) (deadline : Millis) : DeviceFields where
  reconciliationReason := some (some reason)
  reconciliationDeadline := some (some deadline)
  acceptDeadline := some none

/-- The updates of one device row, each with its guard. A settlement also deletes the fence of
the settled job, which is what the Boolean says. -/
inductive RowEdit (now : Millis) (s : Store) (row : DeviceRow) :
    Op → (DeviceRow → DeviceRow) → Bool → Prop
  | transition {expected : Option (List DeviceState)} {target : DeviceState}
      {fields : DeviceFields} {idempotent : Bool}
      (hexpected : ∀ states, expected = some states → row.state ∈ states)
      (hvalid : validDeviceTransition row.state target) :
    RowEdit now s row
      (.transitionDevice row.jobId row.deviceId expected target fields idempotent)
      (transitionedRow now target fields) false
  | markReconciling {expected : List DeviceState} {reason : String} {deadline : Millis}
      (hexpected : row.state ∈ expected) (hvalid : validDeviceTransition row.state .reconciling) :
    RowEdit now s row (.markReconciling row.jobId row.deviceId expected reason deadline)
      (transitionedRow now .reconciling (reconcilingFields reason deadline)) false
  | settle {result : TerminalResult} (hstate : settleAllowed row.state) :
    RowEdit now s row (.settleResult row.jobId row.deviceId 1 result) (settledRow now result) true
  | claim {online : List DeviceId} (hclaim : s.claimCandidate online = some row) :
    RowEdit now s row (.claimNext online) (claimedRow now) false
  | prepare {protocol : ProtocolMode} {capabilities : List String} {deadline : Option Millis}
      (hstate : row.state = .waitingTransfer) :
    RowEdit now s row
      (.prepareDispatch row.jobId row.deviceId protocol capabilities deadline)
      (preparedRow now protocol capabilities deadline) false
  | acceptanceExpired {acceptDeadline deadline : Millis} (hstate : row.state = .dispatching)
      (haccepted : row.acceptedAt = none) (hdeadline : row.acceptDeadline = some acceptDeadline) :
    RowEdit now s row
      (.markAcceptanceReconciling row.jobId row.deviceId acceptDeadline deadline)
      (acceptanceExpiredRow now deadline) false
  | reportActive {phase detail : Option String} {target : DeviceState}
      (hstate : row.state = .reconciling) (hphase : phaseTarget phase = some target) :
    RowEdit now s row (.reconcileReport row.jobId row.deviceId 1 .active phase detail)
      (activeRow now target) false
  | reportRequeued {job : JobRow} {phase detail : Option String}
      (hstate : row.state = .reconciling) (hjob : s.job? row.jobId = some job)
      (hreplay : replayable job.dispatchEnabled .absent row) :
    RowEdit now s row (.reconcileReport row.jobId row.deviceId 1 .absent phase detail)
      (requeuedRow now) false
  | reportInterrupted {status : ReportStatus} {phase detail : Option String}
      (hstate : row.state = .reconciling) (hstatus : status = .absent ∨ status = .interrupted)
      (hreplay : ∀ job, s.job? row.jobId = some job → ¬ replayable job.dispatchEnabled status row) :
    RowEdit now s row (.reconcileReport row.jobId row.deviceId 1 status phase detail)
      (interruptedRow now status detail) false

/-- The operations that delete a fence without writing a device row, with what they require of
the fence. -/
inductive FenceClear (s : Store) (fence : FenceRow) : Op → Prop
  | processReplaced {processInstanceId : Option String} (hpid : truthy processInstanceId)
      (hother : fence.blockingProcessInstanceId ≠ processInstanceId) :
    FenceClear s fence (.clearFenceOnProcessReplacement fence.deviceId processInstanceId true)
  | matching {jobId : JobId} (hblocker : fence.blocker = .job jobId) :
    FenceClear s fence (.clearMatchingFence jobId fence.deviceId 1)
  | matchingUnknown {jobId : JobId} {expected : JobId} {artifact : Option String}
      {identity : OpaqueIdentity} {named : JobId × Option String}
      (hblocker : fence.blocker = .unknown identity) (hmode : fence.protocolMode = .jobV1)
      (hexpected : canonicalOpaqueJobIdentity { jobId := some jobId, attempt := .one } =
        some (.job expected artifact))
      (hparse : parseOpaqueJobIdentity identity = some named) (hnamed : named.1 = expected) :
    FenceClear s fence (.clearMatchingOpaqueFence fence.deviceId jobId 1)
  | lateResult {jobId : JobId} {row : DeviceRow} (hblocker : fence.blocker = .job jobId)
      (hrow : s.device? jobId fence.deviceId = some row) (hstate : row.state = .unconfirmed) :
    FenceClear s fence (.settleLateFencedResult jobId fence.deviceId 1)
  | report {jobId : JobId} {row : DeviceRow} {status : ReportStatus} {phase detail : Option String}
      (hblocker : fence.blocker = .job jobId)
      (hrow : s.device? jobId fence.deviceId = some row) (hstate : row.state = .unconfirmed)
      (hstatus : status = .absent ∨ status = .interrupted) :
    FenceClear s fence (.reconcileReport jobId fence.deviceId 1 status phase detail)

/-! ### The committed changes -/

/-- Delete the fence of `jobId` on the device if `drop`. -/
def dropFenceIf (s : Store) (drop : Bool) (deviceId : DeviceId) (jobId : JobId) : Store :=
  if drop then s.deleteJobFence deviceId jobId else s

/-- Everything an operation can commit. -/
inductive Effect (now : Millis) (s : Store) : Op → Store → Prop
  | same {op : Op} : Effect now s op s
  | job {op : Op} {job : JobRow} {f : JobRow → JobRow} {hf : ∀ job, (f job).jobId = job.jobId}
      (hjob : s.job? job.jobId = some job) (edit : JobEdit now job op f) :
    Effect now s op (s.updateJob job.jobId f hf)
  | publish {job : JobRow} {artifact : PublishedArtifact} {artifacts : Table ArtifactRow.artifactId}
      (hjob : s.job? job.jobId = some job) (hstate : job.state = .packaging)
      (hnew : s.artifacts.find? artifact.artifactId = none)
      (hrows : artifacts.rows = s.artifacts.rows ++ [artifact.row now]) :
    Effect now s (.publishArtifact job.jobId artifact)
      ({ s with artifacts }.updateJob job.jobId (artifactReady now artifact.artifactId))
  | row {op : Op} {row : DeviceRow} {f : DeviceRow → DeviceRow} {drop : Bool}
      {hf : ∀ row, (f row).key = row.key}
      (hrow : s.device? row.jobId row.deviceId = some row) (edit : RowEdit now s row op f drop) :
    Effect now s op
      (((s.updateDevice row.jobId row.deviceId f hf).dropFenceIf drop row.deviceId
        row.jobId).touched row.jobId now)
  | unconfirm {row : DeviceRow} {pid : Option String} {detail : String}
      {expectedDeadline observedNow : Option Millis} {t : Store}
      (hrow : s.device? row.jobId row.deviceId = some row) (hstate : row.state = .reconciling)
      (ht : t = (s.updateDevice row.jobId row.deviceId
        (unconfirmedRow (observedNow.getD now) detail)).upsertFence
          (jobFence (observedNow.getD now) row.jobId row.deviceId row.protocolMode pid detail))
      (hdue : ∀ deadline, expectedDeadline = some deadline →
        row.reconciliationDeadline = some deadline ∧ deadline ≤ observedNow.getD now) :
    Effect now s (.markUnconfirmed row.jobId row.deviceId pid detail expectedDeadline observedNow)
      (t.updateJobs (t.visibleJobIds row.deviceId (some row.jobId))
        (t.touchedJob (observedNow.getD now)) (t.touchedJob_jobId (observedNow.getD now)))
  | fenceUnknown {deviceId : DeviceId} {identity : OpaqueIdentity} {protocol : ProtocolMode}
      {pid : Option String} {reason : String} {t : Store}
      (hnew : ∀ fence, s.fence? deviceId = some fence →
        ¬ sameOpaqueFence fence (opaqueFence now deviceId identity protocol pid reason))
      (ht : t = s.upsertFence (opaqueFence now deviceId identity protocol pid reason)) :
    Effect now s (.addOpaqueFence deviceId identity protocol pid reason)
      (t.updateJobs (t.visibleJobIds deviceId) (bumpedJob now)
        (bumpedJob_jobId now))
  | clear {op : Op} {fence : FenceRow} {ids : List JobId}
      (hfence : s.fence? fence.deviceId = some fence) (hclear : FenceClear s fence op)
      (hids : ∀ k job, s.job? k = some job → (s.device? k fence.deviceId).isSome →
        s.showsFence k fence → k ∈ ids) :
    Effect now s op ((s.deleteFence fence.deviceId).updateJobs ids (bumpedJob now)
        (bumpedJob_jobId now))
  | create {jobId : JobId} {request : CanonicalCreateRequest}
      {targetProtocols : DeviceId → Option (ProtocolMode × List String)} {timeout : Nat}
      {jobs : Table JobRow.jobId} {devices : Table DeviceRow.key} {rows : List DeviceRow}
      (hnew : s.job? jobId = none)
      (hrequest : ∀ job ∈ s.jobs.rows, job.clientRequestId ≠ request.clientRequestId)
      (hjobs : jobs.rows = s.jobs.rows ++ [newJobRow now jobId request timeout])
      (hrows : TargetRows now jobId s.nextEnqueueSeq 0 request.targetDevices rows)
      (hdevices : devices.rows = s.devices.rows ++ rows) :
    Effect now s (.createJob jobId request targetProtocols timeout)
      { s with
        jobs, devices, nextEnqueueSeq := s.nextEnqueueSeq + request.targetDevices.length }
  | recover {acceptTimeout timeout : Nat} {t : Store}
      (ht : t = s.recoverRows now acceptTimeout timeout) :
    Effect now s (.recoverStartupSync acceptTimeout timeout)
      (t.updateJobs (s.recoveryTouched now acceptTimeout timeout) (t.rederived now)
        (t.rederived_jobId now))
  | artifactsFailed {isFile : String → Bool} {s' : Store}
      (h : ArtifactsFailed now (s.missingArtifacts isFile) s s') :
    Effect now s (.reconcileMissingArtifactsSync isFile) s'

end Store

end StylyMdm.PushJobs
